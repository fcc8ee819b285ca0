import FluidStructure.Proofs.Runs

/-!
# Courses

A course is an act cut into stages.  It has the same runs, and in addition moments: the
states between two stages, with what is then still to come.
-/

namespace FluidStructure

/-- Stages one after the other; a fault of one ends the course. -/
inductive Course (I : Interface) (σ α : Type) : Type 1
  | done (result : Except Fault α)
  | stage {β : Type} (act : Act I σ β) (next : β → Course I σ α)

namespace Course

variable {I : Interface} {σ α β : Type}

protected def bind : Course I σ α → (α → Course I σ β) → Course I σ β
  | done (.ok value), f => f value
  | done (.error fault), _ => done (.error fault)
  | stage act next, f => stage act fun value => (next value).bind f

instance : Monad (Course I σ) where
  pure value := done (.ok value)
  bind := Course.bind

/-- One stage. -/
def of (act : Act I σ α) : Course I σ α := stage act fun value => done (.ok value)

/-- The act that was cut. -/
def toAct : Course I σ α → Act I σ α
  | done result => Act.ofExcept result
  | stage act next => act >>= fun value => (next value).toAct

@[simp] theorem toAct_of (act : Act I σ α) : (of act).toAct = act := bind_pure act

@[simp] theorem toAct_pure (value : α) : (pure value : Course I σ α).toAct = pure value := rfl

@[simp] theorem toAct_bind (course : Course I σ α) (f : α → Course I σ β) :
    (course >>= f).toAct = course.toAct >>= fun value => (f value).toAct := by
  induction course with
  | done result => cases result <;> rfl
  | stage act next ih =>
    change act >>= (fun value => (next value >>= f).toAct) = _
    rw [funext ih]
    exact (bind_assoc act _ _).symm

/-- What is left once the first stage has ended. -/
def after (next : β → Course I σ α) : Except Fault β → Course I σ α
  | .ok value => next value
  | .error fault => done (.error fault)

/-- From this state, with these exchanges, the course gets to a moment: what is left of it,
and the state. -/
inductive Reaches : Course I σ α → σ → Log I → Course I σ α → σ → Prop
  | here (course : Course I σ α) (s : σ) : Reaches course s [] course s
  | later {β : Type} {act : Act I σ β} {next : β → Course I σ α} {s t u : σ}
      {first second : Log I} {result : Except Fault β} {rest : Course I σ α}
      (run : act.Runs s first result t)
      (on : Reaches (after next result) t second rest u) :
      Reaches (stage act next) s (first ++ second) rest u

theorem Reaches.runs {course rest : Course I σ α} {s t u : σ} {first second : Log I}
    {result : Except Fault α} (reached : course.Reaches s first rest t)
    (run : rest.toAct.Runs t second result u) :
    course.toAct.Runs s (first ++ second) result u := by
  induction reached with
  | here => exact run
  | @later _ act next _ _ _ before _ outcome _ stage _ ih =>
    rw [List.append_assoc]
    cases outcome with
    | ok value => exact Act.runs_bind.2 (.inl ⟨before, value, _, _, rfl, stage, ih run⟩)
    | error fault =>
      obtain ⟨ended, rfl, rfl⟩ := Act.runs_ofExcept.1 (ih run)
      rw [ended, List.append_nil]
      exact Act.runs_bind.2 (.inr ⟨fault, rfl, stage⟩)

/-- All stages have a property, whatever the stages before them gave. -/
def All (P : ∀ {β : Type}, Act I σ β → Prop) : Course I σ α → Prop
  | done _ => True
  | stage act next => P act ∧ ∀ value, (next value).All P

section All

variable {P : ∀ {β : Type}, Act I σ β → Prop}

theorem all_of {act : Act I σ α} (h : P act) : (of act).All P := ⟨h, fun _ => trivial⟩

theorem All.bind {course : Course I σ α} {f : α → Course I σ β} (first : course.All P)
    (later : ∀ value, (f value).All P) : (course >>= f).All P := by
  induction course with
  | done result =>
    cases result with
    | ok value => exact later value
    | error fault => trivial
  | stage act next ih => exact ⟨first.1, fun value => ih value (first.2 value)⟩

theorem All.after {next : β → Course I σ α} (h : ∀ value, (next value).All P)
    (result : Except Fault β) : (Course.after next result).All P := by
  cases result with
  | ok value => exact h value
  | error fault => trivial

theorem All.reached {course rest : Course I σ α} {s t : σ} {log : Log I} (h : course.All P)
    (reached : course.Reaches s log rest t) : rest.All P := by
  induction reached with
  | here => exact h
  | later _ _ ih => exact ih (All.after h.2 _)

theorem All.imp {Q : ∀ {β : Type}, Act I σ β → Prop} {course : Course I σ α} (h : course.All P)
    (imp : ∀ {β : Type} (act : Act I σ β), P act → Q act) : course.All Q := by
  induction course with
  | done _ => trivial
  | stage act next ih => exact ⟨imp act h.1, fun value => ih value (h.2 value)⟩

/-- All stages but the first have a property. -/
def Tail (P : ∀ {β : Type}, Act I σ β → Prop) : Course I σ α → Prop
  | done _ => True
  | stage _ next => ∀ value, (next value).All P

theorem All.tail {course : Course I σ α} (h : course.All P) : course.Tail P := by
  cases course with
  | done _ => trivial
  | stage act next => exact h.2

theorem Tail.reached {course rest : Course I σ α} {s t : σ} {log : Log I} (h : course.Tail P)
    (reached : course.Reaches s log rest t) : rest.Tail P := by
  cases reached with
  | here => exact h
  | later _ on => exact ((All.after h _).reached on).tail

end All

/-! ## Relations that all stages keep -/

variable {R : σ → Log I → σ → Prop} {course rest : Course I σ α} {s t : σ} {log : Log I}

theorem All.keeps (h : course.All (Act.Keeps R)) (along : Act.Transitive R) :
    Act.Keeps R course.toAct := by
  induction course with
  | done result => exact along.ofExcept result
  | stage act next ih => exact along.bind h.1 fun value => ih value (h.2 value)

theorem All.kept (h : course.All (Act.Keeps R)) (along : Act.Transitive R)
    (reached : course.Reaches s log rest t) : R s log t := by
  induction reached with
  | here => exact along.refl _
  | later run _ ih => exact along.trans _ _ _ _ _ (h.1 _ _ _ _ run) (ih (All.after h.2 _))

/-! ## Stages that cannot fault -/

/-- No stage can fault as long as the exchanges are calm, and each keeps an invariant. -/
def Sure (calm : Exchange I → Prop) (Inv : σ → Prop) : Course I σ α → Prop
  | done result => ∃ value, result = .ok value
  | stage act next => act.Sure calm Inv ∧ ∀ value, (next value).Sure calm Inv

section Sure

variable {calm : Exchange I → Prop} {Inv : σ → Prop}

theorem sure_of {act : Act I σ α} (h : act.Sure calm Inv) : (of act).Sure calm Inv :=
  ⟨h, fun value => ⟨value, rfl⟩⟩

theorem Sure.bind {f : α → Course I σ β} (first : course.Sure calm Inv)
    (later : ∀ value, (f value).Sure calm Inv) : (course >>= f).Sure calm Inv := by
  induction course with
  | done result =>
    obtain ⟨value, rfl⟩ := first
    exact later value
  | stage act next ih => exact ⟨first.1, fun value => ih value (first.2 value)⟩

theorem Sure.toAct (h : course.Sure calm Inv) : course.toAct.Sure calm Inv := by
  induction course with
  | done result =>
    obtain ⟨value, rfl⟩ := h
    exact Act.sure_pure value
  | stage act next ih => exact h.1.bind fun value => ih value (h.2 value)

theorem Sure.reached (h : course.Sure calm Inv) (reached : course.Reaches s log rest t)
    (fine : ∀ e ∈ log, calm e) (start : Inv s) : Inv t := by
  induction reached with
  | here => exact start
  | later run _ ih =>
    obtain ⟨⟨value, rfl⟩, kept⟩ :=
      h.1 _ _ _ _ run (fun e member => fine e (List.mem_append_left _ member)) start
    exact ih (h.2 value) (fun e member => fine e (List.mem_append_right _ member)) kept

end Sure

theorem reaches_of {act : Act I σ α} (reached : (of act).Reaches s log rest t) :
    log = [] ∧ t = s ∨ ∃ result, act.Runs s log result t := by
  cases reached with
  | here => exact .inl ⟨rfl, rfl⟩
  | @later _ _ _ _ _ _ _ _ result _ run on =>
    cases result with
    | ok value =>
      cases on with
      | here => exact .inr ⟨_, by rwa [List.append_nil]⟩
    | error fault =>
      cases on with
      | here => exact .inr ⟨_, by rwa [List.append_nil]⟩

/-- A moment of two courses in turn is one of the first, or one of the second after all of the
first. -/
theorem reaches_bind {f : α → Course I σ β} {rest : Course I σ β}
    (reached : (course >>= f).Reaches s log rest t) :
    (∃ before, course.Reaches s log before t) ∨
      ∃ first value u second, log = first ++ second ∧ course.toAct.Runs s first (.ok value) u ∧
        (f value).Reaches u second rest t := by
  induction course generalizing s log with
  | done result =>
    cases result with
    | ok value => exact .inr ⟨[], value, s, log, rfl, Act.runs_pure.2 ⟨rfl, rfl, rfl⟩, reached⟩
    | error fault =>
      cases reached with
      | here => exact .inl ⟨_, .here _ _⟩
  | stage act next ih =>
    cases reached with
    | here => exact .inl ⟨_, .here _ _⟩
    | @later _ _ _ _ u _ first second result _ run on =>
      cases result with
      | ok value =>
        rcases ih value on with ⟨before, there⟩ | ⟨middle, value', v, last, rfl, ended, there⟩
        · exact .inl ⟨before, .later run there⟩
        · refine .inr ⟨first ++ middle, value', v, last, (List.append_assoc ..).symm, ?_, there⟩
          exact Act.runs_bind.2 (.inl ⟨first, value, u, middle, rfl, run, ended⟩)
      | error fault =>
        cases on with
        | here => exact .inl ⟨_, .later run (.here _ _)⟩

end Course

end FluidStructure
