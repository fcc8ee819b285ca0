import FluidStructure.Fault
import FluidStructure.Program

/-!
# Acts: programs with a state and faults

An act works on a state, may ask its surroundings, and ends with a value or a fault.
After a fault the state is the one that was reached, not the one at the start.
-/

namespace FluidStructure

/-- A program on a state that ends with a value or a fault. -/
def Act (I : Interface) (σ α : Type) : Type := σ → Program I (Except Fault α × σ)

namespace Act

variable {I : Interface} {σ τ α β : Type}

protected def pure (value : α) : Act I σ α := fun s => .done (.ok value, s)

protected def bind (act : Act I σ α) (f : α → Act I σ β) : Act I σ β := fun s =>
  (act s).bind fun
    | (.ok value, s) => f value s
    | (.error fault, s) => .done (.error fault, s)

instance : Monad (Act I σ) where
  pure := Act.pure
  bind := Act.bind

/-- Ends with a fault. -/
def fail (fault : Fault) : Act I σ α := fun s => .done (.error fault, s)

/-- Goes on after a fault, in the state that it left. -/
def handle (act : Act I σ α) (recover : Fault → Act I σ α) : Act I σ α := fun s =>
  (act s).bind fun
    | (.ok value, s) => .done (.ok value, s)
    | (.error fault, s) => recover fault s

/-- Does `last` whatever becomes of `act`, and passes on the result of `act`. -/
def thenAlways (act : Act I σ α) (last : Act I σ Unit) : Act I σ α := fun s =>
  (act s).bind fun (result, s) => (last s).bind fun (_, s) => .done (result, s)

def get : Act I σ σ := fun s => .done (.ok s, s)

def set (s : σ) : Act I σ Unit := fun _ => .done (.ok (), s)

def modify (change : σ → σ) : Act I σ Unit := fun s => .done (.ok (), change s)

/-- A part of the state. -/
def gets (part : σ → α) : Act I σ α := fun s => .done (.ok (part s), s)

/-- A result that was computed without asking. -/
def ofExcept : Except Fault α → Act I σ α
  | .ok value => Act.pure value
  | .error fault => fail fault

/-- A program that leaves the state alone and cannot fault. -/
def lift (program : Program I α) : Act I σ α := fun s =>
  program.bind fun value => .done (.ok value, s)

/-- Asks once. -/
def perform (request : I.Request) : Act I σ (I.Reply request) := fun s =>
  .ask request fun reply => .done (.ok reply, s)

/-- Acts on a part of a larger state. -/
def zoom (part : τ → σ) (store : σ → τ → τ) (act : Act I σ α) : Act I τ α := fun t =>
  (act (part t)).bind fun (result, s) => .done (result, store s t)

/-- Acts on a state of its own, from a first value to the one it leaves. -/
def withState (s : σ) (act : Act I σ α) : Act I τ (α × σ) := fun t =>
  (act s).bind fun
    | (.ok value, s) => .done (.ok (value, s), t)
    | (.error fault, _) => .done (.error fault, t)

theorem pure_apply (value : α) (s : σ) : (pure value : Act I σ α) s = .done (.ok value, s) := rfl

theorem bind_apply (act : Act I σ α) (f : α → Act I σ β) (s : σ) :
    (act >>= f) s = (act s).bind fun
      | (.ok value, s) => f value s
      | (.error fault, s) => .done (.error fault, s) := rfl

theorem get_bind_apply (f : σ → Act I σ β) (s : σ) : (get >>= f) s = f s s := rfl

theorem set_bind_apply (new : σ) (f : Unit → Act I σ β) (s : σ) :
    (set new >>= f) s = f () new := rfl

theorem modify_bind_apply (change : σ → σ) (f : Unit → Act I σ β) (s : σ) :
    (modify change >>= f) s = f () (change s) := rfl

theorem perform_bind_apply (request : I.Request) (f : I.Reply request → Act I σ β) (s : σ) :
    (perform request >>= f) s = .ask request fun reply => f reply s := rfl

theorem lift_bind_apply (program : Program I α) (f : α → Act I σ β) (s : σ) :
    (lift program >>= f) s = program.bind fun value => f value s := by
  rw [bind_apply]
  unfold lift
  rw [Program.bind_assoc]
  rfl

theorem zoom_apply (part : τ → σ) (store : σ → τ → τ) (act : Act I σ α) (t : τ) :
    zoom part store act t =
      (act (part t)).bind fun (result, s) => .done (result, store s t) := rfl

theorem bind_pure_act (act : Act I σ α) : (act >>= pure) = act := by
  funext s
  refine Eq.trans ?_ (Program.bind_done (act s))
  rw [bind_apply]
  congr 1
  funext (result, s)
  cases result <;> rfl

theorem bind_assoc_act {γ : Type} (act : Act I σ α) (f : α → Act I σ β) (g : β → Act I σ γ) :
    (act >>= f) >>= g = act >>= fun a => f a >>= g := by
  funext s
  rw [bind_apply, bind_apply, bind_apply, Program.bind_assoc]
  congr 1
  funext (result, s)
  cases result <;> rfl

instance : LawfulMonad (Act I σ) :=
  LawfulMonad.mk' (Act I σ) bind_pure_act (fun _ _ => rfl) bind_assoc_act

end Act

end FluidStructure
