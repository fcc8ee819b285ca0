/-!
# Programs that ask

A program computes on its own and now and then asks its surroundings for something: it
sends a request and goes on with the reply.  What a request means is left open.  `run`
answers with a stateful handler, `via` answers with programs over other requests, and
statements about every possible surrounding quantify over the replies.
-/

namespace FluidStructure

/-- Requests, and the type of the reply to each of them. -/
structure Interface where
  Request : Type
  Reply : Request → Type

/-- A finite computation over an interface that ends with a value. -/
inductive Program (I : Interface) (α : Type) where
  | done (value : α)
  | ask (request : I.Request) (next : I.Reply request → Program I α)

namespace Program

variable {I J : Interface} {α β γ σ : Type}

def bind : Program I α → (α → Program I β) → Program I β
  | done value, f => f value
  | ask request next, f => .ask request fun reply => (next reply).bind f

instance : Monad (Program I) where
  pure := .done
  bind := Program.bind

/-- The program that asks once and gives the reply. -/
def perform (request : I.Request) : Program I (I.Reply request) := .ask request .done

/-- Runs a program with a handler that has a state. -/
def run (handler : (request : I.Request) → σ → I.Reply request × σ) :
    Program I α → σ → α × σ
  | done value, s => (value, s)
  | ask request next, s =>
    let (reply, s) := handler request s
    (next reply).run handler s

/-- Answers each request by a program over another interface; the answering side has a
state. -/
def via (answer : (request : I.Request) → σ → Program J (I.Reply request × σ)) :
    Program I α → σ → Program J (α × σ)
  | done value, s => .done (value, s)
  | ask request next, s => (answer request s).bind fun (reply, s) => (next reply).via answer s

@[simp] theorem pure_def (value : α) : (pure value : Program I α) = .done value := rfl

@[simp] theorem bind_def (p : Program I α) (f : α → Program I β) : p >>= f = p.bind f := rfl

@[simp] theorem done_bind (value : α) (f : α → Program I β) :
    (done value : Program I α).bind f = f value := rfl

@[simp] theorem ask_bind (request : I.Request) (next : I.Reply request → Program I α)
    (f : α → Program I β) :
    (ask request next).bind f = .ask request fun reply => (next reply).bind f := rfl

@[simp] theorem bind_done (p : Program I α) : p.bind .done = p := by
  induction p with
  | done value => rfl
  | ask request next ih => simp [ih]

theorem bind_assoc (p : Program I α) (f : α → Program I β) (g : β → Program I γ) :
    (p.bind f).bind g = p.bind fun a => (f a).bind g := by
  induction p with
  | done value => rfl
  | ask request next ih => simp [ih]

instance : LawfulMonad (Program I) :=
  LawfulMonad.mk' (Program I) (fun p => bind_done p) (fun _ _ => rfl) (fun p f g => bind_assoc p f g)

end Program

end FluidStructure
