import FluidStructure.Proofs.Coupling.Diagram
import FluidStructure.Proofs.Coupling.Pacing
import FluidStructure.Proofs.Programs.Preparations

/-!
# The time of the pressure

The pressure on the wall is that of the end of the step being computed.  Every step that begins
with its peer, or dry, keeps to this, wherever the peer is lost in it.  A step that begins without
its peer is completed with the own candidate, of which the session does not know.
-/

namespace FluidStructure.Programs.Fluid

open FluidStructure.Channel FluidStructure.Coupling FluidStructure.Journal FluidStructure.Parallel

/-! ## Steps -/

/-- A time step: the controller at its beginning, what it asks for, and the controller when it has
run, or where a fault has left it. -/
structure Stride where
  start : Controller
  asked : Log Coupling
  stop : Controller

namespace Stride

/-- The time in run control once the step is complete. -/
def completion (s : Stride) : Float := s.stop.completed.run.time

/-- The forces of the step, however often they are asked for, are those of the pressure at this
time. -/
def PressedAt (s : Stride) (time : Float) : Prop :=
  ∀ session run buffer reply, ⟨.computeForces session run buffer, reply⟩ ∈ s.asked →
    PulsatingChannel.endTime session run = time ∧
      ∃ c : PulsatingChannel, reply =
        (.ok (), PulsatingChannel.uniformForces (c.pressure time * c.faceArea) buffer)

section Made

variable {φ : Type} [FluidSolver φ]

/-- The step is one of the program: from this state, over this log of the process, to this
setting. -/
structure Made (s : Stride) (p : Parameters) (x : Coupled φ) (log : Log Parallel)
    (outcome : Except Fault Float) (setting : Setting φ) : Prop where
  start : s.start = x.1
  active : x.1.phase = .active
  run : (Controller.runStep (candidate p)).Runs x.1 s.asked outcome s.stop
  served : Program.Served Setting.answer x.2 s.asked log setting

end Made

variable {s : Stride} {p : Parameters} {x : Coupled PulsatingChannel} {log : Log Parallel}
  {outcome : Except Fault Float} {setting : Setting PulsatingChannel}

/-- The channel replies with the forces of the pressure at the end of the step that it is shown. -/
def Pressed (e : Exchange Coupling) : Prop :=
  ∀ session run buffer reply, e = ⟨.computeForces session run buffer, reply⟩ →
    ∃ c : PulsatingChannel, reply = (.ok (), PulsatingChannel.uniformForces
      (c.pressure (PulsatingChannel.endTime session run) * c.faceArea) buffer)

theorem pressed_of_answer {request : Coupling.Request} {reply : request.Reply}
    {t u : Setting PulsatingChannel} (run : (Setting.answer request t).Runs log (reply, u)) :
    Pressed ⟨request, reply⟩ := by
  rintro session run' buffer reply ⟨⟩
  obtain ⟨-, same⟩ := Program.runs_done.1 run
  exact ⟨t.fluid, (Prod.mk.inj same).1⟩

theorem Made.pressed (made : s.Made p x log outcome setting) : ∀ e ∈ s.asked, Pressed e :=
  (made.served.gains (K := fun _ => True) (fun _ _ _ _ _ run _ _ => ⟨pressed_of_answer run, trivial⟩)
    (fun _ _ => trivial) trivial).1

/-- With its peer, or dry, a step is completed with the length that the session has, and at the
time of its pressure.  Without the peer it is completed with the candidate, and its pressure is
that of the last length that was agreed on. -/
structure Timed (s : Stride) (p : Parameters) : Prop where
  live : s.start.session.isTerminated = false → s.PressedAt s.completion
  gone : s.start.session.isTerminated = true →
    s.PressedAt (s.start.run.time + s.start.session.dt) ∧
      s.completion = s.start.run.time + candidate p

theorem Made.timed (made : s.Made p x log outcome setting) : s.Timed p := by
  obtain ⟨pace, -⟩ := Controller.runs_runStep_paced made.active made.run
  have complete : s.completion = s.stop.run.time + s.stop.stepDt := rfl
  rw [← made.start] at pace
  refine ⟨fun live session run buffer reply member => ?_, fun gone => ⟨?_, ?_⟩⟩
  · obtain ⟨time, dt⟩ := pace.live live session run buffer reply member
    have same : PulsatingChannel.endTime session run = s.completion := by
      rw [complete, pace.time, ← time, ← dt]
      rfl
    exact ⟨same, same ▸ made.pressed _ member _ _ _ _ rfl⟩
  · intro session run buffer reply member
    obtain ⟨time, dt⟩ := (pace.gone gone).1 session run buffer reply member
    have same : PulsatingChannel.endTime session run = s.start.run.time + s.start.session.dt := by
      rw [← time, ← dt]
      rfl
    exact ⟨same, same ▸ made.pressed _ member _ _ _ _ rfl⟩
  · rw [complete, pace.time, (pace.gone gone).2.2]

/-- The session has the length that the step is about to be completed with. -/
theorem Made.agreed {dt : Float} (made : s.Made p x log (.ok dt) setting)
    (live : s.start.session.isTerminated = false) : s.stop.session.dt = s.stop.stepDt :=
  (Controller.runs_runStep_paced made.active made.run).2 dt rfl (made.start ▸ live)

end Stride

/-! ## The time loop -/

section Loop

variable {φ : Type} [FluidSolver φ] {place : Place} {p : Parameters} {mean : φ → Float}
  {out : Controller.ParentArrays} {x y : Coupled φ} {log : Log Parallel}

/-- What the root reports of a step. -/
def reported (place : Place) (s : Stride) (mean : Float) : Log Parallel :=
  if place.isRoot then [⟨.note (.fluidStep s.stop.run.currentStep s.completion mean), ()⟩] else []

/-- How steps follow on each other, at most so many: each begins where the one before has been
completed.  The last one may be broken off by a fault. -/
inductive Paces (place : Place) (p : Parameters) (mean : φ → Float) :
    Nat → Coupled φ → List Stride → Option Stride → Log Parallel → Prop
  | ended {n : Nat} {x : Coupled φ} (ends : n = 0 ∨ x.1.phase ≠ .active) : Paces place p mean n x [] none []
  | broken {n : Nat} {x : Coupled φ} {s : Stride} {log : Log Parallel}
      {outcome : Except Fault Float} {setting : Setting φ} (made : s.Made p x log outcome setting) :
      Paces place p mean (n + 1) x [] (some s) log
  | step {n : Nat} {x : Coupled φ} {s : Stride} {strides : List Stride} {last : Option Stride}
      {log shown later : Log Parallel} {dt : Float} {setting : Setting φ}
      (made : s.Made p x log (.ok dt) setting)
      (shows : ∀ e ∈ shown, ∃ displacement force, e.request = .note (.wallOutput displacement force))
      (rest : Paces place p mean n (s.stop.completed, setting) strides last later) :
      Paces place p mean (n + 1) x (s :: strides) last
        (log ++ (shown ++ (reported place s (mean setting.fluid) ++ later)))

theorem runs_gets_bind {σ α β : Type} {part : σ → α} {f : α → Act Parallel σ β} {t u : σ}
    {log : Log Parallel} {result : Except Fault β} :
    (Act.gets part >>= f).Runs t log result u ↔ (f (part t)).Runs t log result u := Iff.rfl

omit [FluidSolver φ] in
theorem runs_output {result : Except Fault Controller.ParentArrays}
    (run : (output place out).Runs x log result y) :
    y = x ∧ ((∃ fault, result = .error fault ∧ log = []) ∨ (∃ out', result = .ok out') ∧
      ∀ e ∈ log, ∃ displacement force, e.request = .note (.wallOutput displacement force)) := by
  unfold output controller at run
  rw [runs_gets_bind] at run
  generalize Controller.scatterOutput x.1.session out = scattered at run
  obtain ⟨written, scattered⟩ := scattered
  rcases Act.runs_bind.1 run with ⟨_, written, u, second, rfl, gives, onward⟩ | ⟨fault, rfl, gives⟩
  · obtain ⟨rfl, -, rfl⟩ := Act.runs_ofExcept.1 gives
    obtain ⟨outcome, notes, rfl⟩ := Act.runs_bind_pure.1 onward
    unfold Parallel.noteIf at notes
    split at notes
    · obtain ⟨reply, rfl, rfl, rfl⟩ := Act.runs_perform.1 notes
      exact ⟨rfl, .inr ⟨⟨_, rfl⟩, List.forall_mem_singleton.2 ⟨_, _, rfl⟩⟩⟩
    · obtain ⟨rfl, rfl, rfl⟩ := Act.runs_pure.1 notes
      exact ⟨rfl, .inr ⟨⟨_, rfl⟩, List.forall_mem_nil _⟩⟩
  · obtain ⟨rfl, -, rfl⟩ := Act.runs_ofExcept.1 gives
    exact ⟨rfl, .inl ⟨fault, rfl, rfl⟩⟩

/-- A step that has run is completed, and the root reports it. -/
theorem runs_ending {s : Stride} {setting : Setting φ} (turn : s.stop.phase = .stepDone)
    {result : Except Fault Controller.ParentArrays}
    (run : (Setting.embed Controller.endStep >>= fun _ => Act.get >>= fun (c, setting) =>
      Parallel.noteIf place.isRoot (.fluidStep c.run.currentStep c.run.time (mean setting.fluid)) >>=
      fun _ => pure out).Runs (s.stop, setting) log result y) :
    result = .ok out ∧ y = (s.stop.completed, setting) ∧
      log = reported place s (mean setting.fluid) := by
  rcases Act.runs_bind.1 run with ⟨first, _, ⟨e, t⟩, told, rfl, ends, onward⟩ | ⟨_, -, ends⟩
  · obtain ⟨own, ends, served⟩ := Setting.runs_embed_iff.1 ends
    obtain ⟨rfl, -, rfl⟩ := Controller.runs_endStep_of_done turn ends
    cases served
    have noted : (Parallel.noteIf place.isRoot (.fluidStep s.stop.run.currentStep s.completion
        (mean setting.fluid)) >>= fun _ => pure out).Runs (s.stop.completed, setting) told result y :=
      onward
    obtain ⟨outcome, notes, rfl⟩ := Act.runs_bind_pure.1 noted
    unfold reported
    unfold Parallel.noteIf at notes
    split at notes
    · rename_i root
      obtain ⟨reply, rfl, rfl, rfl⟩ := Act.runs_perform.1 notes
      rw [if_pos root]
      exact ⟨rfl, rfl, rfl⟩
    · rename_i other
      obtain ⟨rfl, rfl, rfl⟩ := Act.runs_pure.1 notes
      rw [if_neg other]
      exact ⟨rfl, rfl, rfl⟩
  · obtain ⟨e, t⟩ := y
    obtain ⟨own, ends, -⟩ := Setting.runs_embed_iff.1 ends
    cases (Controller.runs_endStep_of_done turn ends).2.1

/-- A step is made and completed, or a fault breaks it off. -/
theorem runs_step {result : Except Fault Controller.ParentArrays} (active : x.1.phase = .active)
    (run : (step place p mean out).Runs x log result y) :
    ∃ s : Stride, (∃ out' stepping shown dt setting, result = .ok out' ∧
        s.Made p x stepping (.ok dt) setting ∧ y = (s.stop.completed, setting) ∧
        (∀ e ∈ shown, ∃ displacement force, e.request = .note (.wallOutput displacement force)) ∧
        log = stepping ++ (shown ++ reported place s (mean setting.fluid))) ∨
      ∃ fault outcome setting, result = .error fault ∧ s.Made p x log outcome setting := by
  obtain ⟨c, setting⟩ := x
  rcases Act.runs_bind.1 run with ⟨stepping, dt, ⟨d, t⟩, later, rfl, steps, onward⟩ | ⟨fault, rfl, steps⟩
  · obtain ⟨asked, steps, served⟩ := Setting.runs_embed_iff.1 steps
    have made : Stride.Made ⟨c, asked, d⟩ p (c, setting) stepping (.ok dt) t :=
      ⟨rfl, active, steps, served⟩
    refine ⟨⟨c, asked, d⟩, ?_⟩
    rcases Act.runs_bind.1 onward with ⟨shown, out', u, told, rfl, shows, onward⟩ | ⟨fault, rfl, shows⟩
    · obtain ⟨rfl, ⟨_, wrong, -⟩ | ⟨-, shows⟩⟩ := runs_output shows
      · cases wrong
      have turn : d.phase = .stepDone := Controller.gives_runStep _ _ _ _ _ steps
      obtain ⟨rfl, rfl, rfl⟩ := runs_ending (s := ⟨c, asked, d⟩) turn onward
      exact .inl ⟨out', stepping, shown, dt, _, rfl, made, rfl, shows, rfl⟩
    · obtain ⟨rfl, ⟨_, -, rfl⟩ | ⟨⟨_, wrong⟩, -⟩⟩ := runs_output shows
      · rw [List.append_nil]
        exact .inr ⟨fault, _, _, rfl, made⟩
      · cases wrong
  · obtain ⟨d, t⟩ := y
    obtain ⟨asked, steps, served⟩ := Setting.runs_embed_iff.1 steps
    exact ⟨⟨c, asked, d⟩, .inr ⟨fault, _, t, rfl, rfl, active, steps, served⟩⟩

theorem paces_of_steps {n : Nat} {result : Except Fault Unit}
    (run : (steps place p mean n out).Runs x log result y) :
    ∃ strides last, Paces place p mean n x strides last log := by
  induction n generalizing x out log with
  | zero =>
    obtain ⟨rfl, -⟩ := Act.runs_pure.1 run
    exact ⟨_, _, .ended (.inl rfl)⟩
  | succ n ih =>
    unfold steps controller at run
    rw [runs_gets_bind] at run
    split at run
    · rename_i active
      rcases Act.runs_bind.1 run with ⟨first, out', u, later, rfl, steps, onward⟩ | ⟨fault, rfl, steps⟩
      · obtain ⟨s, ⟨out'', stepping, shown, dt, setting, -, made, rfl, shows, rfl⟩ |
          ⟨_, _, _, wrong, -⟩⟩ := runs_step active steps
        · obtain ⟨strides, last, rest⟩ := ih onward
          rw [List.append_assoc, List.append_assoc]
          exact ⟨_, _, .step made shows rest⟩
        · cases wrong
      · obtain ⟨s, ⟨_, _, _, _, _, wrong, -⟩ | ⟨_, _, _, -, made⟩⟩ := runs_step active steps
        · cases wrong
        · exact ⟨_, _, .broken made⟩
    · rename_i idle
      obtain ⟨rfl, -⟩ := Act.runs_pure.1 run
      exact ⟨_, _, .ended (.inr idle)⟩

/-- The steps of a time loop: none if it cannot begin. -/
inductive Loops (place : Place) (p : Parameters) (mean : φ → Float) (x : Coupled φ) :
    List Stride → Option Stride → Log Parallel → Prop
  | unbegun {log : Log Parallel} {fault : Fault} {y : Coupled φ}
      (run : (Setting.embed Controller.begin).Runs x log (.error fault) y) :
      Loops place p mean x [] none log
  | begun {opening stepping closing : Log Parallel} {strides : List Stride} {last : Option Stride}
      {y : Coupled φ} (run : (Setting.embed Controller.begin).Runs x opening (.ok ()) y)
      (paces : Paces place p mean (stepBound p) y strides last stepping)
      (ends : closing = [] ∨ ∃ (z : Coupled φ) (result : _) (t : _),
        (Setting.embed Controller.finish).Runs z closing result t) :
      Loops place p mean x strides last (opening ++ (stepping ++ closing))

theorem loops_of_timeLoop {result : Except Fault Unit}
    (run : (timeLoop place p mean out).Runs x log result y) :
    ∃ strides last, Loops place p mean x strides last log := by
  rcases Act.runs_bind.1 run with ⟨opening, _, u, later, rfl, begins, onward⟩ | ⟨fault, rfl, begins⟩
  · rcases Act.runs_bind.1 onward with ⟨stepping, _, v, closing, rfl, steps, ends⟩ | ⟨fault, rfl, steps⟩
    · obtain ⟨strides, last, paces⟩ := paces_of_steps steps
      exact ⟨strides, last, .begun begins paces (.inr ⟨_, _, _, ends⟩)⟩
    · obtain ⟨strides, last, paces⟩ := paces_of_steps steps
      have loops := Loops.begun begins paces (.inl rfl)
      rw [List.append_nil] at loops
      exact ⟨strides, last, loops⟩
  · exact ⟨[], none, .unbegun begins⟩

/-- A run cannot begin because its group could not agree. -/
theorem failed_of_begin {c d : Controller} {log : Log Coupling} {fault : Fault}
    (turn : c.phase = .uninitialized) (registered : c.session.isRegistered = true)
    (run : Controller.begin.Runs c log (.error fault) d) :
    ∃ buffer, ⟨.broadcastInts buffer, .error fault⟩ ∈ log := by
  unfold Controller.begin Controller.sizeStaging Act.Runs at run
  rw [Controller.requirePhase_bind_apply, if_pos turn, Act.get_bind_apply, registered,
    if_neg (by decide), Act.modify_bind_apply] at run
  rcases Act.runs_bind.1 run with ⟨_, _, _, _, rfl, -, opens⟩ | ⟨_, same, announces⟩
  · cases (Act.runs_modify.1 opens).2.1
  obtain rfl := Except.error.inj same
  unfold Controller.announce Act.Runs at announces
  rw [Act.get_bind_apply] at announces
  split at announces
  · cases (runs_noteIf announces).2.1
  rcases Act.runs_bind.1 announces with ⟨sending, own, e, _, rfl, tells, sharing⟩ | ⟨_, -, tells⟩
  · unfold Act.Runs at sharing
    rw [shareInt_bind_apply] at sharing
    obtain ⟨reply, rest, rfl, onward⟩ := Program.runs_ask.1 sharing
    rcases runs_opening.1 onward with ⟨values, rfl, heeds⟩ | ⟨_, rfl, -, same, -⟩
    · cases (Controller.runs_heed heeds).2.1
    · obtain rfl := Except.error.inj same
      exact ⟨_, List.mem_append_right _ List.mem_cons_self⟩
  · obtain ⟨_, wrong, -⟩ := Controller.tells_onRoot (Controller.tells_sendParameters _) _ _ _ _ tells
    cases wrong

/-- A process stays in its group. -/
theorem group_of_answer {s t : Setting φ} {g : Group} {request : Coupling.Request}
    {reply : request.Reply} {log : Log Parallel} (group : s.group = .process g)
    (run : (Setting.answer request s).Runs log (reply, t)) : t.group = .process g := by
  have asked {α : Type} {process : Group → Act Parallel Unit α} {simulated : _} {result : Except Fault α}
      (run : (s.useGroup process simulated).Runs log (result, t)) : t.group = .process g := by
    unfold Setting.useGroup at run
    rw [group] at run
    obtain ⟨_, -, same⟩ := Program.runs_bind_done.1 run
    rw [(Prod.mk.inj same).2, group]
  have controlled {α : Type} {messages : Program Parallel α} {simulated : _} {value : α}
      (run : (s.useControl messages simulated).Runs log (value, t)) : t.group = .process g := by
    unfold Setting.useControl at run
    split at run
    · obtain ⟨_, -, same⟩ := Program.runs_bind_done.1 run
      rw [(Prod.mk.inj same).2, group]
    · obtain ⟨-, same⟩ := Program.runs_done.1 run
      rw [(Prod.mk.inj same).2]
      exact group
  have exchanged {α : Type} {messages : Act Parallel MessageChannel α} {simulated : _}
      {result : Except Fault α}
      (run : (s.useField messages simulated).Runs log (result, t)) : t.group = .process g := by
    unfold Setting.useField at run
    split at run
    · obtain ⟨_, -, same⟩ := Program.runs_bind_done.1 run
      rw [(Prod.mk.inj same).2]
      exact group
    · obtain ⟨-, same⟩ := Program.runs_done.1 run
      rw [(Prod.mk.inj same).2]
      exact group
  unfold Setting.answer at run
  cases request with
  | sumReals | sumCounts | broadcastReals | broadcastInts => exact asked run
  | sendInts | sendReals | receiveInts | receiveReals => exact controlled run
  | sendField | receiveField => exact exchanged run
  | close peer =>
    dsimp only at run
    unfold Setting.closeChannel at run
    split at run
    · obtain ⟨_, -, same⟩ := Program.runs_bind_done.1 run
      rw [(Prod.mk.inj same).2, group]
    · obtain ⟨-, same⟩ := Program.runs_done.1 run
      rw [(Prod.mk.inj same).2]
      exact group
  | computeForces | imposeDisplacement | peerConvergence =>
    obtain ⟨-, same⟩ := Program.runs_done.1 run
    rw [(Prod.mk.inj same).2]
    exact group
  | note notice =>
    obtain ⟨_, -, same⟩ := Program.runs_bind_done.1 run
    rw [(Prod.mk.inj same).2, group]

theorem failed_of_answer {s t : Setting φ} {g : Group} {log : Log Parallel} {buffer : List Int32}
    {fault : Fault} (group : s.group = .process g)
    (run : (Setting.answer (.broadcastInts buffer) s).Runs log (.error fault, t)) :
    ∃ code, ⟨.broadcastInts g.communicator 0 buffer, .error code⟩ ∈ log := by
  unfold Setting.answer Setting.useGroup at run
  dsimp only at run
  rw [group] at run
  obtain ⟨result, answered, same⟩ := Program.runs_bind_done.1 run
  obtain ⟨⟨outcome, ⟨⟩⟩, asks, ends⟩ := Program.runs_bind_done.1 answered
  obtain ⟨reply, rest, rfl, checks⟩ := Program.runs_ask.1 asks
  obtain rfl := (Prod.mk.inj same).1.trans ends
  cases reply with
  | ok values => cases (Prod.mk.inj (Program.runs_done.1 checks).2).1
  | error code => exact ⟨code, List.mem_cons_self⟩

/-- If a process finds its group unable to agree, an operation of the group has failed. -/
theorem failed_of_served {s t : Setting φ} {g : Group} {own : Log Coupling} {log : Log Parallel}
    {buffer : List Int32} {fault : Fault} (group : s.group = .process g)
    (served : Program.Served Setting.answer s own log t)
    (member : ⟨.broadcastInts buffer, .error fault⟩ ∈ own) :
    ∃ code, ⟨.broadcastInts g.communicator 0 buffer, .error code⟩ ∈ log := by
  induction served with
  | idle => cases member
  | serve answered _ ih =>
    rcases List.mem_cons.1 member with same | later
    · cases same
      obtain ⟨code, found⟩ := failed_of_answer group answered
      exact ⟨code, List.mem_append_left _ found⟩
    · obtain ⟨code, found⟩ := ih (group_of_answer group answered) later
      exact ⟨code, List.mem_append_right _ found⟩

/-- A time loop makes a step, unless an operation of the group has failed before. -/
theorem Loops.underway {strides : List Stride} {last : Option Stride}
    (h : Loops place p mean x strides last log) (fresh : Fresh x) :
    strides ++ last.toList ≠ [] ∨
      ∃ c buffer code, ⟨.broadcastInts c 0 buffer, .error code⟩ ∈ log := by
  obtain ⟨c, setting⟩ := x
  cases h with
  | @unbegun _ fault y run =>
    obtain ⟨d, t⟩ := y
    obtain ⟨own, begins, served⟩ := Setting.runs_embed_iff.1 run
    obtain ⟨buffer, failed⟩ := failed_of_begin fresh.phase fresh.registered begins
    obtain ⟨g, group⟩ := fresh.group
    obtain ⟨code, found⟩ := failed_of_served group served failed
    exact .inr ⟨_, buffer, code, found⟩
  | @begun _ _ _ _ _ y run paces =>
    obtain ⟨d, t⟩ := y
    obtain ⟨own, begins, -⟩ := Setting.runs_embed_iff.1 run
    have active : d.phase = .active := Controller.gives_begin _ _ _ _ begins
    refine .inl ?_
    cases paces with
    | ended ends =>
      rcases ends with none | idle
      · exact absurd none (Nat.succ_ne_zero _)
      · exact absurd active idle
    | broken => exact List.cons_ne_nil _ _
    | step => exact List.cons_ne_nil _ _

end Loop

section Channel

variable {place : Place} {p : Parameters} {mean : PulsatingChannel → Float}
  {x : Coupled PulsatingChannel} {strides : List Stride} {last : Option Stride} {log : Log Parallel}

/-- Steps that follow on each other are timed, and the session has the length that a step has been
completed with. -/
theorem Paces.timed {n : Nat} (h : Paces place p mean n x strides last log) :
    (∀ s ∈ strides ++ last.toList, s.Timed p) ∧
      ∀ s ∈ strides, s.start.session.isTerminated = false → s.stop.session.dt = s.stop.stepDt := by
  induction h with
  | ended => exact ⟨List.forall_mem_nil _, List.forall_mem_nil _⟩
  | broken made => exact ⟨List.forall_mem_singleton.2 made.timed, List.forall_mem_nil _⟩
  | step made _ _ ih =>
    exact ⟨List.forall_mem_cons.2 ⟨made.timed, ih.1⟩, List.forall_mem_cons.2 ⟨made.agreed, ih.2⟩⟩

theorem Loops.timed (h : Loops place p mean x strides last log) :
    (∀ s ∈ strides ++ last.toList, s.Timed p) ∧
      ∀ s ∈ strides, s.start.session.isTerminated = false → s.stop.session.dt = s.stop.stepDt := by
  cases h with
  | unbegun => exact ⟨List.forall_mem_nil _, List.forall_mem_nil _⟩
  | begun _ paces => exact paces.timed

end Channel

/-! ## Whole runs -/

/-- In whatever run of the program, unless it never comes to its time loop: the steps that it makes
follow on each other, and each is timed.  There are steps, unless the group could not agree on the
beginning.  A step that has been completed with its peer, or dry, has been completed with the length
that the session then has. -/
theorem pressure_timed {file : String} {s t : Lifecycle} {log : Log Parallel}
    {result : Except Fault Int32} (run : (program file).Runs s log result t) :
    (∀ made ∈ log, Aside made.request) ∨
      ∃ place p x strides last before part after, log = before ++ (part ++ after) ∧
        (∀ made ∈ before, Aside made.request) ∧ (∀ made ∈ after, Aside made.request) ∧
        Fresh x ∧ Loops place p PulsatingChannel.meanDisplacement x strides last part ∧
        (strides ++ last.toList ≠ [] ∨
          ∃ c buffer code, ⟨.broadcastInts c 0 buffer, .error code⟩ ∈ part) ∧
        (∀ stride ∈ strides ++ last.toList, stride.Timed p) ∧
        ∀ stride ∈ strides, stride.start.session.isTerminated = false →
          stride.stop.session.dt = stride.stop.stepDt := by
  rcases hosting_program file _ _ _ _ run with aside |
    ⟨before, part, after, same, ⟨place, p, out, x, outcome, y, fresh, loops⟩, quiet, still⟩
  · exact .inl aside
  obtain ⟨strides, last, loops⟩ := loops_of_timeLoop loops
  exact .inr ⟨place, p, x, strides, last, before, part, after, same, quiet, still, fresh, loops,
    loops.underway fresh, loops.timed⟩

namespace LostPeer

/-- A process alone in its application, whose peer takes everything and sends noise. -/
def reply : (request : Parallel.Request) → request.Reply
  | .size .world => .ok 2
  | .declare _ own => .ok (own ++ (Declaration.mk "structure" "spring").pack)
  | .readFile _ => some <|
    "coupling:\n  max_time_steps: 3\n  reference_time_step: 0.5\n  reference_length: 1.0\n" ++
      "flap:\n  faces_per_rank: 1\n"
  | request => Garbled.reply request

def played : Log Parallel × Except Fault Int32 × Lifecycle := (program "flap.yaml" {}).follow reply

set_option maxRecDepth 100000 in
theorem played_couples : played.1.any (fun made => made.request.couples) = true := by decide +kernel

/-- The program gets to its time loop and makes steps there, each of them timed. -/
theorem pressure_timed_lost :
    (program "flap.yaml").Runs {} played.1 played.2.1 played.2.2 ∧
      ∃ p strides last, strides ++ Option.toList last ≠ [] ∧
        ∀ stride ∈ strides ++ Option.toList last, Stride.Timed stride p := by
  have run : (program "flap.yaml").Runs {} played.1 played.2.1 played.2.2 := by
    have playing : (program "flap.yaml" {}).follow reply = played := rfl
    exact playing ▸ Act.runs_follow (I := Parallel) reply (program "flap.yaml") {}
  refine ⟨run, ?_⟩
  rcases pressure_timed run with aside | ⟨_, p, _, strides, last, before, part, after, same, -, -, -,
    -, under, timed, -⟩
  · obtain ⟨made, member, couples⟩ := List.any_eq_true.1 played_couples
    exact absurd ((aside made member).symm.trans couples) Bool.false_ne_true
  · rcases under with some | ⟨c, buffer, code, failed⟩
    · exact ⟨p, strides, last, some, timed⟩
    · have member : ⟨.broadcastInts c 0 buffer, .error code⟩ ∈ played.1 :=
        same ▸ List.mem_append_right before (List.mem_append_left after failed)
      have followed := Program.mem_follow (p := program "flap.yaml" {}) member
      cases followed

/-- The peer takes nothing. -/
def deaf : (request : Parallel.Request) → request.Reply
  | .sendHeader .. => .error 5
  | request => reply request

def parameters : Parameters := { maxTimeSteps := 3, referenceStep := 0.5, referenceLength := 1.0 }

def channel : PulsatingChannel where
  faceArea := 0.01
  amplitude := 100.0
  frequency := 5.0
  addedStiffness := 0.0
  surface := EchoedRun.surface
  wallDisplacement := Session.zeroVectors 4

def registered : Log Coupling × Except Fault Unit × Session :=
  (Session.register {} EchoedRun.surface 1.0 (Session.new parameters { root := 1 })).follow
    (Controller.echo Status.ok)

def start : Coupled PulsatingChannel where
  fst.place := {}
  fst.session := registered.2.2
  fst.run := { lastStep := 3, previousTime := 0.0, time := 0.0 }
  snd := ⟨.process ⟨.application, {}, false⟩, .messages { place := {} }, channel⟩

def answer (request : Coupling.Request) (s : Setting PulsatingChannel) :
    request.Reply × Setting PulsatingChannel := ((Setting.answer request s).follow deaf).2

def begun : Log Coupling × (Except Fault Unit × Controller) × Setting PulsatingChannel :=
  (Controller.begin start.1).play answer start.2

def stepped : Log Coupling × (Except Fault Float × Controller) × Setting PulsatingChannel :=
  (Controller.runStep (candidate parameters) begun.2.1.2).play answer begun.2.2

def stride : Stride := ⟨begun.2.1.2, stepped.1, stepped.2.1.2⟩

/-- The peer is lost at the beginning of the run.  The pressure of the first step is that of an
earlier time than the one at which the step is completed. -/
theorem pressure_elsewhere :
    Fresh start ∧
    (∃ log, (Setting.embed Controller.begin).Runs start log (.ok ()) (begun.2.1.2, begun.2.2)) ∧
    (∃ log, stride.Made parameters (begun.2.1.2, begun.2.2) log (.ok (candidate parameters))
      stepped.2.2) ∧
    ∃ session run buffer reply, ⟨.computeForces session run buffer, reply⟩ ∈ stride.asked ∧
      PulsatingChannel.endTime session run < stride.completion ∧
      PulsatingChannel.endTime session run ≠ stride.completion := by
  have begins : Controller.begin.Runs start.1 begun.1 (.ok ()) begun.2.1.2 := by
    have playing : (Controller.begin start.1).play answer start.2 = begun := rfl
    exact Act.runs_play playing
  have steps : (Controller.runStep (candidate parameters)).Runs begun.2.1.2 stepped.1
      (.ok (candidate parameters)) stepped.2.1.2 := by
    have playing : (Controller.runStep (candidate parameters) begun.2.1.2).play answer begun.2.2 =
      stepped := rfl
    exact Act.runs_play playing
  obtain ⟨session, run, buffer, reply, rest, asks, earlier⟩ : ∃ session run buffer reply rest,
      stride.asked = ⟨.computeForces session run buffer, reply⟩ :: rest ∧
        PulsatingChannel.endTime session run < stride.completion :=
    ⟨_, _, _, _, _, rfl, by decide⟩
  refine ⟨⟨rfl, rfl, ⟨_, rfl⟩, ⟨_, rfl⟩⟩, ?_, ?_, session, run, buffer, reply,
    asks ▸ List.mem_cons_self, earlier, fun same => ?_⟩
  · obtain ⟨log, served⟩ := Program.served_play (J := Parallel) deaf (Controller.begin start.1) start.2
    exact ⟨log, Setting.runs_embed_iff.2 ⟨begun.1, begins, served⟩⟩
  · obtain ⟨log, served⟩ := Program.served_play (J := Parallel) deaf
      (Controller.runStep (candidate parameters) begun.2.1.2) begun.2.2
    exact ⟨log, rfl, rfl, steps, served⟩
  · exact absurd (same ▸ earlier) (by decide : ¬ stride.completion < stride.completion)

end LostPeer

end FluidStructure.Programs.Fluid
