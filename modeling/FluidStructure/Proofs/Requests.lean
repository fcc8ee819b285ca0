import FluidStructure.Proofs.Runs

/-!
# What a program may ask

A condition on requests holds of a program if it holds of everything that the program asks,
whatever the replies are.  Then it holds along every run.
-/

namespace FluidStructure

variable {I : Interface} {P : I.Request → Prop} {σ τ α β : Type}

/-- Whatever the replies are, all that the program asks meets a condition. -/
def Program.Asks (P : I.Request → Prop) : Program I α → Prop
  | done _ => True
  | ask request next => P request ∧ ∀ reply, (next reply).Asks P

namespace Program

theorem Asks.bind {p : Program I α} {f : α → Program I β} (first : p.Asks P)
    (later : ∀ value, (f value).Asks P) : (p.bind f).Asks P := by
  induction p with
  | done value => exact later value
  | ask request next ih => exact ⟨first.1, fun reply => ih reply (first.2 reply)⟩

/-- What the answers may ask, the answered program may ask. -/
theorem Asks.via {J : Interface} {Q : J.Request → Prop}
    {answer : (request : I.Request) → σ → Program J (I.Reply request × σ)}
    (answers : ∀ request s, P request → (answer request s).Asks Q) {p : Program I α}
    (asks : p.Asks P) (s : σ) : (p.via answer s).Asks Q := by
  induction p generalizing s with
  | done value => trivial
  | ask request next ih => exact (answers request s asks.1).bind fun (reply, t) => ih reply (asks.2 reply) t

theorem Asks.of_runs {p : Program I α} (asks : p.Asks P) {log : Log I} {value : α}
    (run : p.Runs log value) : ∀ made ∈ log, P made.request := by
  induction run with
  | done value => exact List.forall_mem_nil _
  | ask reply rest ih => exact List.forall_mem_cons.2 ⟨asks.1, ih (asks.2 reply)⟩

theorem Asks.mono {Q : I.Request → Prop} (weaker : ∀ request, P request → Q request)
    {p : Program I α} (asks : p.Asks P) : p.Asks Q := by
  induction p with
  | done value => trivial
  | ask request next ih => exact ⟨weaker _ asks.1, fun reply => ih reply (asks.2 reply)⟩

end Program

namespace Act

/-- From whatever state, all that the act asks meets a condition. -/
def Asks (P : I.Request → Prop) (act : Act I σ α) : Prop := ∀ s, (act s).Asks P

theorem Asks.of_runs {act : Act I σ α} (asks : act.Asks P) {s t : σ} {log : Log I}
    {result : Except Fault α} (run : act.Runs s log result t) : ∀ made ∈ log, P made.request :=
  Program.Asks.of_runs (asks s) run

theorem Asks.mono {Q : I.Request → Prop} (weaker : ∀ request, P request → Q request)
    {act : Act I σ α} (asks : act.Asks P) : act.Asks Q := fun s => (asks s).mono weaker

theorem asks_pure (value : α) : (pure value : Act I σ α).Asks P := fun _ => trivial

theorem asks_fail (fault : Fault) : (fail fault : Act I σ α).Asks P := fun _ => trivial

theorem asks_get : (get : Act I σ σ).Asks P := fun _ => trivial

theorem asks_set (new : σ) : (set new : Act I σ Unit).Asks P := fun _ => trivial

theorem asks_modify (change : σ → σ) : (modify change : Act I σ Unit).Asks P := fun _ => trivial

theorem asks_ofExcept (outcome : Except Fault α) : (ofExcept outcome : Act I σ α).Asks P := by
  cases outcome with
  | ok value => exact asks_pure value
  | error fault => exact asks_fail fault

theorem asks_perform {request : I.Request} (fine : P request) :
    (perform request : Act I σ _).Asks P := fun _ => ⟨fine, fun _ => trivial⟩

theorem asks_lift {program : Program I α} (asks : program.Asks P) :
    (lift program : Act I σ α).Asks P := fun _ => asks.bind fun _ => trivial

theorem Asks.bind {act : Act I σ α} {f : α → Act I σ β} (first : act.Asks P)
    (later : ∀ value, (f value).Asks P) : (act >>= f).Asks P := fun s =>
  (first s).bind fun
    | (.ok value, u) => later value u
    | (.error _, _) => trivial

end Act

end FluidStructure
