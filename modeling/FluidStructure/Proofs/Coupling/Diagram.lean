import FluidStructure.Proofs.Coupling.Conformance
import FluidStructure.Proofs.Coupling.Stagewise

/-!
# The diagram of the phases

The diagram says which operations a phase allows and where they lead.  Operations can be called in
any order, after faults as well.  One that is not allowed is refused without any trace, save for the
saving of the previous values, which no phase guards.  The end is allowed everywhere; the first one
closes the channel, and there is no second closing.
-/

namespace FluidStructure.Coupling

open FluidStructure.Channel FluidStructure.Journal

variable {log : Log Coupling}

/-! ## Closings -/

/-- Does the request tell the peer that the run is over? -/
def Request.closes : Request → Bool
  | close _ => true
  | _ => false

/-- The exchanges that tell the peer that the run is over. -/
def closings (log : Log Coupling) : Log Coupling := log.filter fun e => e.request.closes

@[simp] theorem closings_nil : closings [] = [] := rfl

@[simp] theorem closings_append (first second : Log Coupling) :
    closings (first ++ second) = closings first ++ closings second := List.filter_append ..

theorem closings_cons_of_not {e : Exchange Coupling} (h : e.request.closes = false)
    (log : Log Coupling) : closings (e :: log) = closings log :=
  List.filter_cons_of_neg (by rw [h]; decide)

theorem Request.closes_of_isLocal {request : Request} (h : request.isLocal = true) :
    request.closes = false := by
  cases request <;> first | rfl | cases h

theorem Local.closings (h : Local log) : closings log = [] :=
  List.filter_eq_nil_iff.2 fun e member => by
    rw [Request.closes_of_isLocal (h e member)]
    decide

theorem TimeStep.closings_exchanged {s : Session} {iteration : Int32} {own : Float}
    {chosen : Option Float} (run : (exchanged s iteration own).Runs log chosen) :
    closings log = [] := by
  unfold exchanged at run
  obtain ⟨received, rest, rfl, on⟩ := Program.runs_ask.1 run
  rw [closings_cons_of_not rfl]
  dsimp only at on
  split at on
  · obtain ⟨_, _, rfl, ends⟩ := Program.runs_ask.1 on
    rw [closings_cons_of_not rfl, (Program.runs_done.1 ends).1]
    rfl
  · obtain ⟨sent, rest', rfl, on'⟩ := Program.runs_ask.1 on
    rw [closings_cons_of_not rfl]
    split at on'
    · obtain ⟨_, _, rfl, ends⟩ := Program.runs_ask.1 on'
      rw [closings_cons_of_not rfl, (Program.runs_done.1 ends).1]
      rfl
    · obtain ⟨tail, rfl, ends⟩ := runs_noting.1 on'
      rw [closings_append, (local_notes _ _).closings, (Program.runs_done.1 ends).1]
      rfl

theorem TimeStep.closings_proposal {place : Parallel.Place} {s : Session} {own : Float}
    {proposed : Int32 × Float} (run : (proposal place s own).Runs log proposed) :
    closings log = [] := by
  unfold proposal at run
  split at run
  · obtain ⟨first, chosen, second, rfl, exchanging, on⟩ := Program.runs_bind.1 run
    rw [closings_append, closings_exchanged exchanging]
    cases chosen with
    | some dt =>
      rw [(Program.runs_done.1 on).1]
      rfl
    | none =>
      obtain ⟨_, _, rfl, ends⟩ := Program.runs_ask.1 on
      rw [closings_cons_of_not rfl, (Program.runs_done.1 ends).1]
      rfl
  · rw [(Program.runs_done.1 run).1]
    rfl

/-- Is this a stage of a sub-iteration? -/
def Operation.isStage : Operation → Bool
  | sendForces | receiveDisplacement | predictDisplacement _ | exchangeConvergence
  | saveValues => true
  | begin | beginStep _ | runStep _ | endStep | finish => false

namespace Controller

variable {c d e : Controller}

/-! ## What the diagram says -/

/-- Does the diagram allow an operation?  The beginning needs an interface, too. -/
def Allows (c : Controller) : Operation → Prop
  | .begin => c.phase = .uninitialized ∧ c.session.isRegistered = true
  | .beginStep _ | .runStep _ => c.phase = .active
  | .endStep => c.phase = .stepDone ∨ c.phase = .subIterating
  | .finish => True
  | .sendForces | .receiveDisplacement | .predictDisplacement _ | .exchangeConvergence
  | .saveValues => c.phase = .subIterating

/-- Where an operation leads that is allowed; the end of a step asks run control. -/
def target (after : RunControl) : Operation → Phase
  | .begin => .active
  | .runStep _ => .stepDone
  | .endStep => if after.isLastStep then .terminating else .active
  | .finish => .closed
  | .beginStep _ | .sendForces | .receiveDisplacement | .predictDisplacement _
  | .exchangeConvergence | .saveValues => .subIterating

/-! ## Parts that stay in their phase -/

/-- The phase stays, and nothing is closed. -/
structure Abides (c : Controller) (log : Log Coupling) (d : Controller) : Prop where
  phase : d.phase = c.phase
  closings : closings log = []

theorem abides : Act.Transitive Abides where
  refl := fun _ => ⟨rfl, rfl⟩
  trans := fun _ _ _ _ _ h k =>
    ⟨k.phase.trans h.phase, by rw [closings_append, h.closings, k.closings]; rfl⟩

theorem abides_modify {change : Controller → Controller}
    (phase : ∀ c, (change c).phase = c.phase) : (Act.modify change).Keeps Abides :=
  Act.keeps_modify fun c => ⟨phase c, rfl⟩

theorem abides_modifySession (change : Session → Session) :
    (modifySession change).Keeps Abides := abides_modify fun _ => rfl

theorem abides_perform {request : Request} (h : request.closes = false) :
    (Act.perform (I := Coupling) request).Keeps Abides :=
  Act.keeps_perform fun _ _ => ⟨rfl, closings_cons_of_not h []⟩

theorem abides_noteIf (condition : Bool) (notice : Notice) :
    (noteIf condition notice).Keeps Abides := abides.noteIf (fun _ => abides_perform rfl) _ _

theorem abides_of_alongside {c d : Controller} (silent : Local log) (alongside : c.Alongside d) :
    c.Abides log d := ⟨alongside.phase, silent.closings⟩

theorem stagewise_abides : Act.Stagewise Abides where
  toTransitive := abides
  aside := fun noted => abides_of_alongside noted.local
  sent := fun _ _ _ => abides_perform rfl
  received := fun _ _ _ => abides_perform rfl
  lost := fun _ => ⟨rfl, rfl⟩

theorem abides_announce : announce.Keeps Abides :=
  abides.announce (fun _ => abides_perform rfl) (fun _ _ _ _ => abides_perform rfl)
    (fun _ _ _ _ => abides_perform rfl) (fun _ => abides_perform rfl)
    (stagewise_abides.disconnect _)

theorem abides_negotiate (place : Parallel.Place) (own : Float) :
    (onSchedule (TimeStep.negotiate place own)).Keeps Abides := by
  intro c log result d run
  obtain ⟨t, h, rfl⟩ := Act.runs_zoom.1 run
  refine ⟨rfl, ?_⟩
  unfold Act.Runs at h
  rw [TimeStep.negotiate_apply] at h
  split at h
  · rw [(Program.runs_done.1 h).1]
    rfl
  · obtain ⟨first, proposed, second, rfl, told, settled⟩ := Program.runs_bind.1 h
    rw [closings_append, TimeStep.closings_proposal told, (TimeStep.runs_settle settled).1.closings]
    rfl

theorem abides_subIterate : subIterate.Keeps Abides :=
  stagewise_abides.subIterate abides_of_alongside (fun _ _ _ _ => abides_perform rfl)
    (abides.computeForces (fun _ _ _ => abides_perform rfl) fun _ => abides_modifySession _)
    (fun _ _ => abides_perform rfl) (abides_modifySession _)

/-- What is kept along the stages is kept by each of them as an operation. -/
theorem keeps_stage {R : Controller → Log Coupling → Controller → Prop} (kept : Act.Stagewise R)
    (own : ∀ {c d : Controller} {log}, Local log → c.Alongside d → R c log d)
    (flag : ∀ peer iteration name values,
      (Act.perform (I := Coupling) (.sendInts peer iteration name values)).Keeps R)
    {operation : Operation} (h : operation.isStage = true) : operation.perform.Keeps R := by
  cases operation with
  | begin | beginStep _ | runStep _ | endStep | finish => cases h
  | sendForces => exact kept.bind kept.sendForces fun _ => kept.pure _
  | receiveDisplacement => exact kept.bind kept.receiveDisplacement fun _ => kept.pure _
  | predictDisplacement parent =>
    exact kept.bind (kept.predictDisplacementOnto kept.predictDisplacement parent) fun _ =>
      kept.pure _
  | exchangeConvergence => exact kept.bind (kept.exchangeConvergence own flag) fun _ => kept.pure _
  | saveValues => exact kept.bind kept.saveValues fun _ => kept.pure _

/-- A stage stays in its phase, whatever comes of it. -/
theorem abides_stage {operation : Operation} (h : operation.isStage = true) :
    operation.perform.Keeps Abides :=
  keeps_stage stagewise_abides abides_of_alongside (fun _ _ _ _ => abides_perform rfl) h

/-! ## Operations other than the end -/

/-- A run that is not over is not over afterwards, and nothing is closed. -/
structure Remains (c : Controller) (log : Log Coupling) (d : Controller) : Prop where
  stillOpen : c.phase ≠ .closed → d.phase ≠ .closed
  closings : closings log = []

theorem remains : Act.Transitive Remains where
  refl := fun _ => ⟨id, rfl⟩
  trans := fun _ _ _ _ _ h k =>
    ⟨fun still => k.stillOpen (h.stillOpen still), by
      rw [closings_append, h.closings, k.closings]; rfl⟩

theorem remains_of_abides {α : Type} {act : Act Coupling Controller α} (h : act.Keeps Abides) :
    act.Keeps Remains := by
  intro c log result d run
  obtain ⟨phase, none⟩ := h _ _ _ _ run
  exact ⟨fun still => phase ▸ still, none⟩

theorem remains_setPhase {phase : Phase} (h : phase ≠ .closed) : (setPhase phase).Keeps Remains :=
  Act.keeps_modify fun _ => ⟨fun _ => h, rfl⟩

theorem remains_begin : begin.Keeps Remains :=
  remains.begin (remains_of_abides (abides_modify fun _ => rfl)) (remains_of_abides abides_announce)
    (remains_setPhase (by decide))

theorem remains_beginStep (own : Float) : (beginStep own).Keeps Remains :=
  remains.bind (remains.requirePhase _ _) fun _ =>
    remains.bind (remains_setPhase (by decide)) fun _ =>
    remains.bind (remains_of_abides (abides_modify fun _ => rfl)) fun _ =>
    remains.bind remains.get fun _ =>
    remains.bind (remains_of_abides (abides_negotiate _ _)) fun _ =>
    remains.bind (remains_of_abides (abides_modify fun _ => rfl)) fun _ =>
    remains.bind (remains_of_abides (abides_modifySession _)) fun _ =>
    remains.bind (remains_setPhase (by decide)) fun _ => remains.pure _

theorem remains_runStep (own : Float) : (runStep own).Keeps Remains :=
  remains.bind (remains_beginStep own) fun _ => remains.bind remains.get fun _ =>
    remains.bind (remains_of_abides (abides.subIterateAtMost abides_subIterate _)) fun _ =>
    remains.bind (remains_setPhase (by decide)) fun _ => remains.bind remains.get fun _ =>
    remains.bind (remains_of_abides (abides_noteIf _ _)) fun _ => remains.pure _

theorem remains_endStep : endStep.Keeps Remains := by
  refine Act.keeps_get_bind fun c log result d run => ?_
  dsimp only at run
  split at run
  · exact remains.fail _ _ _ _ _ run
  · obtain ⟨rfl, -, rfl⟩ := Act.runs_set.1 run
    refine ⟨fun _ => ?_, rfl⟩
    dsimp only
    split <;> decide

/-- Only the end closes, and only it is the end. -/
theorem remains_perform {operation : Operation} (h : operation ≠ .finish) :
    operation.perform.Keeps Remains := by
  cases operation with
  | finish => exact absurd rfl h
  | begin => exact remains.bind remains_begin fun _ => remains.pure _
  | beginStep own => exact remains.bind (remains_beginStep own) fun _ => remains.pure _
  | runStep own => exact remains.bind (remains_runStep own) fun _ => remains.pure _
  | endStep => exact remains.bind remains_endStep fun _ => remains.pure _
  | sendForces => exact remains_of_abides (abides_stage rfl)
  | receiveDisplacement => exact remains_of_abides (abides_stage rfl)
  | predictDisplacement parent => exact remains_of_abides (abides_stage rfl)
  | exchangeConvergence => exact remains_of_abides (abides_stage rfl)
  | saveValues => exact remains_of_abides (abides_stage rfl)

/-! ## Refusals -/

/-- What the diagram does not allow is refused without a trace.  Only the saving of the previous
values is not guarded. -/
theorem refused_of_not_allows {operation : Operation} {outcome : Except Fault Answer}
    (guarded : operation ≠ .saveValues) (wrong : ¬ c.Allows operation)
    (run : operation.perform.Runs c log outcome d) :
    log = [] ∧ d = c ∧ ∃ fault, outcome = .error fault ∧ fault.kind = .logic := by
  -- all guarded operations but two ask for a phase, and for nothing else
  have guard {α : Type} {expected : Phase} {name : String} {f : Unit → Act Coupling Controller α}
      {g : α → Act Coupling Controller Answer} (phase : c.phase ≠ expected)
      (run : ((requirePhase expected name >>= f) >>= g).Runs c log outcome d) :
      log = [] ∧ d = c ∧ ∃ fault, outcome = .error fault ∧ fault.kind = .logic := by
    rw [bind_assoc] at run
    obtain ⟨silent, same, fault⟩ := refused phase run
    exact ⟨silent, same, _, fault, rfl⟩
  cases operation with
  | begin =>
    by_cases turn : c.phase = .uninitialized
    · have bare : c.session.isRegistered = false := Bool.eq_false_iff.2 fun has => wrong ⟨turn, has⟩
      dsimp only [Operation.perform] at run
      unfold Controller.begin Act.Runs at run
      rw [bind_assoc, requirePhase_bind_apply, if_pos turn, bind_assoc, Act.get_bind_apply, bare,
        Bool.not_false, if_pos rfl] at run
      obtain ⟨rfl, same⟩ := Program.runs_done.1 run
      obtain ⟨rfl, rfl⟩ := Prod.mk.inj same
      exact ⟨rfl, rfl, _, rfl, rfl⟩
    · exact guard turn run
  | beginStep own => exact guard wrong run
  | runStep own =>
    dsimp only [Operation.perform] at run
    unfold Controller.runStep Controller.beginStep at run
    rw [bind_assoc] at run
    exact guard wrong run
  | endStep =>
    have shut : c.phase ≠ .stepDone ∧ c.phase ≠ .subIterating := not_or.1 wrong
    dsimp only [Operation.perform] at run
    unfold Controller.endStep Act.Runs at run
    rw [bind_assoc, Act.get_bind_apply, if_pos shut] at run
    obtain ⟨rfl, same⟩ := Program.runs_done.1 run
    obtain ⟨rfl, rfl⟩ := Prod.mk.inj same
    exact ⟨rfl, rfl, _, rfl, rfl⟩
  | finish => exact absurd trivial wrong
  | sendForces => exact guard wrong run
  | receiveDisplacement => exact guard wrong run
  | predictDisplacement parent =>
    dsimp only [Operation.perform] at run
    unfold predictDisplacementOnto Act.Runs at run
    rw [bind_assoc, Act.get_bind_apply, bind_assoc] at run
    exact guard wrong run
  | exchangeConvergence => exact guard wrong run
  | saveValues => exact absurd rfl guarded

/-! ## Where an operation leads -/

theorem gives_setPhase_bind {α : Type} {phase : Phase} {f : Unit → Act Coupling Controller α}
    (after : (f ()).Keeps Abides) : (setPhase phase >>= f).Gives fun _ d => d.phase = phase := by
  intro c log value d run
  unfold setPhase Act.Runs at run
  rw [Act.modify_bind_apply] at run
  exact (after _ _ _ _ run).phase

theorem gives_begin : begin.Gives fun _ d => d.phase = .active := by
  refine Act.gives_bind fun _ => Act.gives_bind fun c => ?_
  split
  · intro _ _ _ _ run
    obtain ⟨-, wrong, -⟩ := Act.runs_fail.1 run
    cases wrong
  · refine Act.gives_bind fun _ => Act.gives_bind fun _ => ?_
    intro _ _ _ _ run
    obtain ⟨-, -, rfl⟩ := Act.runs_modify.1 run
    rfl

theorem gives_beginStep (own : Float) : (beginStep own).Gives fun _ d => d.phase = .subIterating :=
  Act.gives_bind fun _ => Act.gives_bind fun _ => Act.gives_bind fun _ => Act.gives_bind fun _ =>
    Act.gives_bind fun _ => Act.gives_bind fun _ => Act.gives_bind fun _ =>
    gives_setPhase_bind (abides.pure _)

theorem gives_runStep (own : Float) : (runStep own).Gives fun _ d => d.phase = .stepDone :=
  Act.gives_bind fun _ => Act.gives_bind fun _ => Act.gives_bind fun _ =>
    gives_setPhase_bind (abides.bind abides.get fun _ => abides.bind (abides_noteIf _ _) fun _ =>
      abides.pure _)

theorem gives_endStep :
    endStep.Gives fun _ d => d.phase = if d.run.isLastStep then .terminating else .active := by
  refine Act.gives_bind fun c => ?_
  dsimp only
  split
  · intro _ _ _ _ run
    obtain ⟨-, wrong, -⟩ := Act.runs_fail.1 run
    cases wrong
  · intro _ _ _ _ run
    obtain ⟨-, -, rfl⟩ := Act.runs_set.1 run
    rfl

theorem gives_finish : finish.Gives fun _ d => d.phase = .closed := by
  intro c log value d run
  obtain ⟨-, again, first⟩ := runs_finish run
  by_cases closed : c.phase = .closed
  · rw [(again closed).2]
    exact closed
  · rw [(first closed).2]
    rfl

/-- What the diagram allows leads where the diagram says, if it succeeds. -/
theorem phase_of_allows {operation : Operation} {answer : Answer} (allowed : c.Allows operation)
    (run : operation.perform.Runs c log (.ok answer) d) : d.phase = target d.run operation := by
  -- what an act gives, the operation made of it gives
  have given {α : Type} {act : Act Coupling Controller α} {g : α → Answer} {phase : Phase}
      (gives : act.Gives fun _ d => d.phase = phase)
      (run : (act >>= fun value => pure (g value)).Runs c log (.ok answer) d) :
      d.phase = phase := by
    obtain ⟨outcome, run, same⟩ := Act.runs_bind_pure.1 run
    cases outcome with
    | ok value => exact gives _ _ _ _ run
    | error fault => cases same
  cases operation with
  | begin => exact given gives_begin run
  | beginStep own => exact given (gives_beginStep own) run
  | runStep own => exact given (gives_runStep own) run
  | endStep =>
    obtain ⟨outcome, run, same⟩ := Act.runs_bind_pure.1 run
    cases outcome with
    | ok _ => exact gives_endStep _ _ _ _ run
    | error fault => cases same
  | finish => exact given gives_finish run
  | sendForces => exact (abides_stage rfl _ _ _ _ run).phase.trans allowed
  | receiveDisplacement => exact (abides_stage rfl _ _ _ _ run).phase.trans allowed
  | predictDisplacement parent => exact (abides_stage rfl _ _ _ _ run).phase.trans allowed
  | exchangeConvergence => exact (abides_stage rfl _ _ _ _ run).phase.trans allowed
  | saveValues => exact (abides_stage rfl _ _ _ _ run).phase.trans allowed

/-! ## Calls in any order -/

/-- What a caller can come to: it calls operations in any order, and goes on after faults.  Between
the calls session and run control are its own, but a released session stays released. -/
inductive Visits (c : Controller) : List Record → Controller → Prop
  | start : Visits c [] c
  | call {records : List Record} {d e : Controller} {r : Record} (before : Visits c records d)
      (run : r.operation.perform.Runs d r.log r.outcome e) : Visits c (records ++ [r]) e
  | aside {records : List Record} {d : Controller} (before : Visits c records d)
      (session : Session) (run : RunControl)
      (kept : d.session.released = true → session.released = true) :
      Visits c records { d with session, run }

theorem Visits.append {records later : List Record} (visits : c.Visits records d)
    (history : History d later e) : c.Visits (records ++ later) e := by
  induction history generalizing records with
  | nil _ => rwa [List.append_nil]
  | cons run _ ih =>
    rw [List.append_cons]
    exact ih (visits.call run)

/-- What is over is over for good: the end has been called, the session is released, and the peer
has been told at most once. -/
structure Sealed (records : List Record) (d : Controller) : Prop where
  closed : d.phase = .closed ↔ records.any Record.finishes = true
  released : d.phase = .closed → d.session.released = true
  told : (closings (records.flatMap Record.log)).length ≤
    if records.any Record.finishes then 1 else 0

theorem goodbye_length (c : Controller) : c.goodbye.length ≤ 1 := by
  unfold goodbye
  split
  · exact Nat.le_refl 1
  · exact Nat.zero_le 1

theorem closings_goodbye (c : Controller) : closings c.goodbye = c.goodbye := by
  unfold goodbye
  split
  · rfl
  · rfl

/-- Only the first end closes the channel, and only towards a peer that is still there. -/
theorem closings_call {records : List Record} {r : Record} (settled : Sealed records d)
    (run : r.operation.perform.Runs d r.log r.outcome e) :
    closings r.log = if r.finishes && !records.any Record.finishes then d.goodbye else [] := by
  by_cases ends : r.operation = .finish
  · have finishes : r.finishes = true := by rw [Record.finishes, ends]
    rw [ends] at run
    obtain ⟨result, run, -⟩ := Act.runs_bind_pure.1 run
    obtain ⟨-, again, first⟩ := runs_finish run
    rw [finishes, Bool.true_and]
    by_cases closed : d.phase = .closed
    · rw [(again closed).1, settled.closed.1 closed]
      rfl
    · obtain ⟨⟨notes, quiet, log⟩, -⟩ := first closed
      rw [log, closings_append, quiet.closings, closings_goodbye, List.append_nil,
        Bool.eq_false_iff.2 (mt settled.closed.2 closed)]
      rfl
  · have finishes : r.finishes = false := by
      unfold Record.finishes
      split
      · exact absurd ‹_› ends
      · rfl
    rw [finishes, Bool.false_and]
    exact (remains_perform ends _ _ _ _ run).closings

/-- The saving of the previous values asks for no phase. -/
theorem runs_saveValues {outcome : Except Fault Answer}
    (run : Operation.saveValues.perform.Runs c log outcome d) :
    outcome = .ok .nothing ∧ log = [] ∧
      d = { c with session :=
        if c.session.isImplicit then c.session else c.session.savePrevious } := by
  obtain ⟨result, saved, rfl⟩ := Act.runs_bind_pure.1 run
  obtain ⟨rfl, rfl, rfl⟩ := Act.runs_modify.1 saved
  exact ⟨rfl, rfl, rfl⟩

theorem not_allows_of_closed {operation : Operation} (closed : c.phase = .closed)
    (h : operation ≠ .finish) : ¬ c.Allows operation := by
  cases operation <;> simp_all [Allows]

/-- After the end the controller stays as it is, but for the previous values of a session that
has been released. -/
theorem closed_call {operation : Operation} {outcome : Except Fault Answer}
    (closed : c.phase = .closed) (h : operation ≠ .finish)
    (run : operation.perform.Runs c log outcome d) :
    d.phase = .closed ∧ d.session.released = c.session.released := by
  by_cases saving : operation = .saveValues
  · obtain rfl := saving
    obtain ⟨-, -, rfl⟩ := runs_saveValues run
    refine ⟨closed, ?_⟩
    dsimp only
    split
    · rfl
    · rfl
  · obtain ⟨-, rfl, -⟩ := refused_of_not_allows saving (not_allows_of_closed closed h) run
    exact ⟨closed, rfl⟩

/-- The end, whatever there was before. -/
theorem runs_finish_released {outcome : Except Fault Answer}
    (released : c.phase = .closed → c.session.released = true)
    (run : Operation.finish.perform.Runs c log outcome d) :
    outcome = .ok .nothing ∧ d.phase = .closed ∧ d.session.released = true := by
  obtain ⟨result, ended, rfl⟩ := Act.runs_bind_pure.1 run
  obtain ⟨rfl, again, first⟩ := runs_finish ended
  by_cases closed : c.phase = .closed
  · obtain ⟨-, rfl⟩ := again closed
    exact ⟨rfl, closed, released closed⟩
  · obtain ⟨-, rfl⟩ := first closed
    exact ⟨rfl, rfl, c.session.released_release⟩

theorem Record.finishes_iff {r : Record} : r.finishes = true ↔ r.operation = .finish := by
  unfold Record.finishes
  cases r.operation <;> simp

theorem Sealed.call {records : List Record} {r : Record} (settled : Sealed records d)
    (run : r.operation.perform.Runs d r.log r.outcome e) : Sealed (records ++ [r]) e := by
  have told : (closings ((records ++ [r]).flatMap Record.log)).length ≤
      if (records ++ [r]).any Record.finishes then 1 else 0 := by
    rw [List.flatMap_append, List.flatMap_singleton, closings_append, List.length_append,
      closings_call settled run, List.any_append, List.any_cons, List.any_nil, Bool.or_false]
    have before := settled.told
    have leave := d.goodbye_length
    cases h : records.any Record.finishes <;> cases k : r.finishes <;> simp_all
  by_cases ends : r.operation = .finish
  · have finishes := Record.finishes_iff.2 ends
    rw [ends] at run
    obtain ⟨-, closed, released⟩ := runs_finish_released settled.released run
    refine ⟨⟨fun _ => ?_, fun _ => closed⟩, fun _ => released, told⟩
    rw [List.any_append, List.any_cons, finishes, Bool.true_or, Bool.or_true]
  · have goesOn : r.finishes = false := Bool.eq_false_iff.2 (mt Record.finishes_iff.1 ends)
    have same : (records ++ [r]).any Record.finishes = records.any Record.finishes := by
      rw [List.any_append, List.any_cons, goesOn, List.any_nil, Bool.or_false, Bool.or_false]
    have onward : e.phase = .closed → d.phase = .closed :=
      Decidable.not_imp_not.1 (remains_perform ends _ _ _ _ run).stillOpen
    refine ⟨?_, fun closed => ?_, told⟩
    · rw [same, ← settled.closed]
      exact ⟨onward, fun closed => (closed_call closed ends run).1⟩
    · rw [(closed_call (onward closed) ends run).2]
      exact settled.released (onward closed)

theorem Visits.sealed {records : List Record} (fresh : c.phase ≠ .closed)
    (visits : c.Visits records d) : Sealed records d := by
  induction visits with
  | start => exact ⟨⟨fun closed => absurd closed fresh, nofun⟩, fun closed => absurd closed fresh,
      Nat.le_refl 0⟩
  | call _ run settled => exact settled.call run
  | aside _ session run kept settled =>
    exact ⟨settled.closed, fun closed => kept (settled.released closed), settled.told⟩

/-- Whatever has been called before: an operation that the diagram does not allow is refused without
a trace, one that it allows leads where the diagram says, and the end cannot fail.  The peer is told
once at most, by the first end, and only if it is there.  The saving of the previous values is never
refused. -/
theorem follows_diagram {records : List Record} {r : Record} (fresh : c.phase = .uninitialized)
    (visits : c.Visits records d) (run : r.operation.perform.Runs d r.log r.outcome e) :
    (r.operation ≠ .saveValues → ¬ d.Allows r.operation →
      r.log = [] ∧ e = d ∧ ∃ fault, r.outcome = .error fault ∧ fault.kind = .logic) ∧
    (d.Allows r.operation → ∀ answer, r.outcome = .ok answer →
      e.phase = target e.run r.operation) ∧
    (r.operation = .saveValues → r.outcome = .ok .nothing ∧ r.log = [] ∧
      e = { d with session :=
        if d.session.isImplicit then d.session else d.session.savePrevious }) ∧
    (r.operation = .finish →
      r.outcome = .ok .nothing ∧ e.phase = .closed ∧ e.session.released = true) ∧
    (closings r.log =
      if r.finishes ∧ records.any Record.finishes = false ∧ d.phase ≠ .uninitialized ∧
          d.session.peer.found ∧ d.session.isTerminated = false ∧ d.place.isRoot then
        [⟨.close d.session.peer.root, ()⟩]
      else []) ∧
    (closings ((records ++ [r]).flatMap Record.log)).length ≤ 1 := by
  have settled : Sealed records d := visits.sealed (fresh ▸ nofun)
  refine ⟨fun guarded wrong => refused_of_not_allows guarded wrong run,
    fun allowed answer good => phase_of_allows allowed (good ▸ run),
    fun saving => runs_saveValues (saving ▸ run),
    fun ends => runs_finish_released settled.released (ends ▸ run), ?_, ?_⟩
  · rw [closings_call settled run]
    unfold goodbye Session.isConnected Session.isDryRun
    cases r.finishes <;> cases records.any Record.finishes <;> simp [and_assoc]
  · refine Nat.le_trans (settled.call run).told ?_
    split
    · exact Nat.le_refl 1
    · exact Nat.zero_le 1

end Controller

open Controller

namespace EchoedRun

/-- After one step. -/
def stepped : List Record × Controller :=
  Controller.follow (echo Status.ok) [.begin, .runStep 0.5] start

def ended : Log Coupling × Except Fault Answer × Controller :=
  (Operation.finish.perform stepped.2).follow (echo Status.ok)

/-- An end between two steps. -/
theorem follows_diagram_ended :
    ended.2.1 = .ok .nothing ∧ ended.2.2.phase = .closed ∧ ended.2.2.session.released = true ∧
      closings ended.1 = [⟨.close 1, ()⟩] := by
  have visits : start.Visits stepped.1 stepped.2 :=
    Visits.start.append (history_follow (echo Status.ok) [.begin, .runStep 0.5] start)
  have run : Operation.finish.perform.Runs stepped.2 ended.1 ended.2.1 ended.2.2 :=
    Act.runs_follow (I := Coupling) (echo Status.ok) _ _
  obtain ⟨-, -, -, ends, told, -⟩ :=
    follows_diagram (r := ⟨.finish, ended.1, ended.2.1⟩) rfl visits run
  obtain ⟨answer, closed, released⟩ := ends rfl
  have begun : stepped.2.phase = .stepDone := rfl
  exact ⟨answer, closed, released,
    told.trans (if_pos ⟨rfl, rfl, by rw [begun]; decide, rfl, rfl, rfl⟩)⟩

/-- Before the beginning, with forces that the fluid solver has written. -/
def loaded : Controller :=
  { start with session := { start.session with force := [1.0, 2.0, 3.0] } }

/-- Outside a step the previous values are saved all the same. -/
theorem saveValues_unguarded : start.Visits [] loaded ∧ ¬ loaded.Allows .saveValues ∧
    ∃ d, Operation.saveValues.perform.Runs loaded [] (.ok .nothing) d ∧
      d.session.previousForce ≠ loaded.session.previousForce := by
  refine ⟨.aside .start _ _ id, by unfold Controller.Allows; decide,
    { loaded with session := loaded.session.savePrevious }, .done _, fun same => ?_⟩
  have kept : [1.0, 2.0, 3.0] = Session.zeroVectors 1 := same
  have first : (1.0 : Float) = 0.0 := (List.cons.inj kept).1
  exact absurd (first ▸ (by decide : (0.0 : Float) < 1.0)) (by decide : ¬ (0.0 : Float) < 0.0)

end EchoedRun

end FluidStructure.Coupling
