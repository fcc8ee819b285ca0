import FluidStructure.Program

/-!
# Two programs in lockstep

Two programs run side by side.  Some requests are common: a program that makes one waits
until the other makes one that fits.  All other requests a program makes on its own, at any
time.  Programs in lockstep never wait in vain.
-/

namespace FluidStructure

/-- How two programs are answered. -/
structure Pact (I : Interface) where
  common : I.Request → Bool
  /-- The replies to a request that a program makes on its own. -/
  Alone : (request : I.Request) → I.Reply request → Prop
  /-- The replies to common requests of the first and the second program; none if the requests
  do not fit. -/
  Together : (r : I.Request) → I.Reply r → (s : I.Request) → I.Reply s → Prop
  answered : ∀ request, common request = false → ∃ reply, Alone request reply

namespace Pact

variable {I : Interface} (k : Pact I) {α β γ δ : Type}

/-- One step of the two programs: of one of them on its own, or of both together. -/
inductive Step : Program I α → Program I β → Program I α → Program I β → Prop
  | first {request : I.Request} {next : I.Reply request → Program I α}
      {reply : I.Reply request} {q : Program I β} (own : k.common request = false)
      (allowed : k.Alone request reply) : Step (.ask request next) q (next reply) q
  | second {p : Program I α} {request : I.Request} {next : I.Reply request → Program I β}
      {reply : I.Reply request} (own : k.common request = false)
      (allowed : k.Alone request reply) : Step p (.ask request next) p (next reply)
  | both {r s : I.Request} {next : I.Reply r → Program I α} {later : I.Reply s → Program I β}
      {x : I.Reply r} {y : I.Reply s} (left : k.common r = true) (right : k.common s = true)
      (allowed : k.Together r x s y) : Step (.ask r next) (.ask s later) (next x) (later y)

/-- Some steps of the two programs, in any order that is possible. -/
inductive Reaches (p : Program I α) (q : Program I β) : Program I α → Program I β → Prop
  | here : Reaches p q p q
  | step {p' p'' : Program I α} {q' q'' : Program I β} (before : Reaches p q p' q')
      (last : k.Step p' q' p'' q'') : Reaches p q p'' q''

/-- In some order of steps, whatever the replies are, the programs end with values in a
relation. -/
inductive Lockstep (Q : α → β → Prop) : Program I α → Program I β → Prop
  | done {x : α} {y : β} (h : Q x y) : Lockstep Q (.done x) (.done y)
  | first {request : I.Request} {next : I.Reply request → Program I α} {q : Program I β}
      (own : k.common request = false)
      (on : ∀ reply, k.Alone request reply → Lockstep Q (next reply) q) :
      Lockstep Q (.ask request next) q
  | second {p : Program I α} {request : I.Request} {next : I.Reply request → Program I β}
      (own : k.common request = false)
      (on : ∀ reply, k.Alone request reply → Lockstep Q p (next reply)) :
      Lockstep Q p (.ask request next)
  | both {r s : I.Request} {next : I.Reply r → Program I α} {later : I.Reply s → Program I β}
      (left : k.common r = true) (right : k.common s = true) (fit : ∃ x y, k.Together r x s y)
      (on : ∀ x y, k.Together r x s y → Lockstep Q (next x) (later y)) :
      Lockstep Q (.ask r next) (.ask s later)

/-- A program makes all its requests on its own, and its values have a property. -/
inductive Own (P : α → Prop) : Program I α → Prop
  | done {x : α} (h : P x) : Own P (.done x)
  | ask {request : I.Request} {next : I.Reply request → Program I α}
      (own : k.common request = false) (on : ∀ reply, Own P (next reply)) :
      Own P (.ask request next)

variable {k} {Q : α → β → Prop} {R : γ → δ → Prop} {p p' : Program I α} {q q' : Program I β}
  {P : α → Prop}

theorem Own.bind {P' : γ → Prop} {f : α → Program I γ} (h : k.Own P p)
    (onward : ∀ x, P x → k.Own P' (f x)) : k.Own P' (p.bind f) := by
  induction h with
  | done h => exact onward _ h
  | ask own _ ih => exact .ask own ih

namespace Lockstep

theorem mono {Q' : α → β → Prop} (h : k.Lockstep Q p q) (imp : ∀ x y, Q x y → Q' x y) :
    k.Lockstep Q' p q := by
  induction h with
  | done h => exact .done (imp _ _ h)
  | first own _ ih => exact .first own ih
  | second own _ ih => exact .second own ih
  | both left right fit _ ih => exact .both left right fit ih

theorem bind {f : α → Program I γ} {g : β → Program I δ} (h : k.Lockstep Q p q)
    (onward : ∀ x y, Q x y → k.Lockstep R (f x) (g y)) :
    k.Lockstep R (p.bind f) (q.bind g) := by
  induction h with
  | done h => exact onward _ _ h
  | first own _ ih => exact .first own ih
  | second own _ ih => exact .second own ih
  | both left right fit _ ih => exact .both left right fit ih

theorem first_own {f : α → Program I γ} {q : Program I δ} (h : k.Own P p)
    (onward : ∀ x, P x → k.Lockstep R (f x) q) : k.Lockstep R (p.bind f) q := by
  induction h with
  | done h => exact onward _ h
  | ask own _ ih => exact .first own fun reply _ => ih reply

theorem second_own {f : α → Program I δ} {q : Program I γ} (h : k.Own P p)
    (onward : ∀ x, P x → k.Lockstep R q (f x)) : k.Lockstep R q (p.bind f) := by
  induction h with
  | done h => exact onward _ h
  | ask own _ ih => exact .second own fun reply _ => ih reply

/-- The order does not matter: every step that is possible leads on. -/
theorem step (h : k.Lockstep Q p q) (taken : k.Step p q p' q') : k.Lockstep Q p' q' := by
  induction h generalizing p' q' with
  | done h => cases taken
  | first own on ih =>
    cases taken with
    | first _ allowed => exact on _ allowed
    | second other allowed => exact .first own fun reply free => ih reply free (.second other allowed)
    | both left =>
      rw [own] at left
      cases left
  | second own on ih =>
    cases taken with
    | first other allowed => exact .second own fun reply free => ih reply free (.first other allowed)
    | second _ allowed => exact on _ allowed
    | both _ right =>
      rw [own] at right
      cases right
  | both left right _ on _ =>
    cases taken with
    | first other =>
      rw [left] at other
      cases other
    | second other =>
      rw [right] at other
      cases other
    | both _ _ allowed => exact on _ _ allowed

theorem reaches (h : k.Lockstep Q p q) (reached : k.Reaches p q p' q') : k.Lockstep Q p' q' := by
  induction reached with
  | here => exact h
  | step _ last ih => exact ih.step last

/-- Nobody waits in vain: there is a next step, or both have ended as they should. -/
theorem goes_on (h : k.Lockstep Q p q) :
    (∃ p' q', k.Step p q p' q') ∨ ∃ x y, p = .done x ∧ q = .done y ∧ Q x y := by
  cases h with
  | done h => exact .inr ⟨_, _, rfl, rfl, h⟩
  | first own _ =>
    obtain ⟨reply, allowed⟩ := k.answered _ own
    exact .inl ⟨_, _, .first own allowed⟩
  | second own _ =>
    obtain ⟨reply, allowed⟩ := k.answered _ own
    exact .inl ⟨_, _, .second own allowed⟩
  | both left right fit _ =>
    obtain ⟨x, y, allowed⟩ := fit
    exact .inl ⟨_, _, .both left right allowed⟩

end Lockstep

/-- There is no infinite sequence of steps. -/
theorem acc_step (p : Program I α) (q : Program I β) :
    Acc (fun after before : Program I α × Program I β =>
      k.Step before.1 before.2 after.1 after.2) (p, q) := by
  induction p generalizing q with
  | done x =>
    induction q with
    | done y => exact .intro _ fun _ taken => nomatch taken
    | ask s later ih =>
      refine .intro _ ?_
      rintro ⟨_, _⟩ taken
      cases taken with
      | second => exact ih _
  | ask r next ih =>
    induction q with
    | done y =>
      refine .intro _ ?_
      rintro ⟨_, _⟩ taken
      cases taken with
      | first => exact ih _ _
    | ask s later ih' =>
      refine .intro _ ?_
      rintro ⟨_, _⟩ taken
      cases taken with
      | first => exact ih _ _
      | second => exact ih' _
      | both => exact ih _ _

end Pact

end FluidStructure
