import FluidStructure.Programs.Fluid
import FluidStructure.Proofs.Coupling.Unfailing

/-!
# Drivers and what the peer does to them

A driver begins its run, runs and ends steps, and finishes.  It runs in a setting: a local group
whose collective operations succeed, a solver that does not fault, and a channel to a peer that may
fail at any message and send anything.  None of that reaches the driver as a fault.
-/

namespace FluidStructure

namespace Parallel

/-! ## Collective operations that succeed -/

/-- Is this reply the error of a collective operation? -/
def Request.breaks : (request : Request) → request.Reply → Bool
  | .barrier _, .error _ => true
  | .broadcastReals .., .error _ => true
  | .broadcastInts .., .error _ => true
  | .reduceReals .., .error _ => true
  | .reduceInts .., .error _ => true
  | .sumCounts .., .error _ => true
  | .declare .., .error _ => true
  | .gatherCount .., .error _ => true
  | .gatherReals .., .error _ => true
  | .scatterReals .., .error _ => true
  | _, _ => false

/-- The exchange is no failed collective operation.  A message to the peer may fail, and what comes
from the peer may be anything. -/
def Collected (e : Exchange Parallel) : Prop := e.request.breaks e.reply = false

variable {σ α : Type} {Inv : σ → Prop}

theorem sure_checked {operation : String} {outcome : Except Code α}
    (fine : ∀ code, outcome ≠ .error code) :
    (checked operation outcome : Act Parallel σ α).Sure Collected Inv := by
  cases outcome with
  | ok value => exact Act.sure_pure value
  | error code => exact absurd rfl (fine code)

theorem sure_lift (program : Program Parallel α) :
    (Act.lift program : Act Parallel σ α).Sure Collected fun _ => True := by
  intro s log result t run _ _
  obtain ⟨_, value, _, -, -, last⟩ := Program.runs_bind.1 run
  obtain ⟨-, same⟩ := Program.runs_done.1 last
  exact ⟨⟨value, congrArg Prod.fst same⟩, trivial⟩

namespace Group

theorem sure_reduceReals (g : Group) (how : Reduction) (values : List Float) :
    (g.reduceReals how values : Act Parallel σ (List Float)).Sure Collected Inv :=
  Act.sure_perform_bind fun _ fine => sure_checked fun _ wrong => by subst wrong; cases fine

theorem sure_sumCounts (g : Group) (values : List Int64) :
    (g.sumCounts values : Act Parallel σ (List Int64)).Sure Collected Inv :=
  Act.sure_perform_bind fun _ fine => sure_checked fun _ wrong => by subst wrong; cases fine

theorem sure_broadcastReals (g : Group) (root : Int32) (buffer : List Float) :
    (g.broadcastReals root buffer : Act Parallel σ (List Float)).Sure Collected Inv :=
  Act.sure_perform_bind fun _ fine => sure_checked fun _ wrong => by subst wrong; cases fine

theorem sure_broadcastInts (g : Group) (root : Int32) (buffer : List Int32) :
    (g.broadcastInts root buffer : Act Parallel σ (List Int32)).Sure Collected Inv :=
  Act.sure_perform_bind fun _ fine => sure_checked fun _ wrong => by subst wrong; cases fine

end Group

end Parallel

namespace Channel.MessageChannel

open Parallel

theorem sure_gatherLayout (own : Int32) : (gatherLayout own).Sure Collected fun _ => True :=
  Act.sure_perform_bind fun _ fine =>
    (sure_checked fun _ wrong => by subst wrong; cases fine).bind fun _ =>
    (Act.sure_modify fun _ _ => trivial).bind fun _ => Act.sure_pure _

theorem sure_shareStatus {σ : Type} {Inv : σ → Prop} (status : Status) :
    (shareStatus status : Act Parallel σ Status).Sure Collected Inv :=
  Act.sure_perform_bind fun _ fine =>
    (sure_checked fun _ wrong => by subst wrong; cases fine).bind fun _ => Act.sure_pure _

theorem sure_sendField (peer : Int32) (name : String) (values : List Float) :
    (sendField peer name values).Sure Collected fun _ => True := by
  have onward (status : Status) :
      (shareStatus status >>= fun shared =>
        pure (if Status.failed shared then shared else Int32.ofNat values.length) :
          Act Parallel MessageChannel Status).Sure Collected fun _ => True :=
    (sure_shareStatus status).bind fun _ => Act.sure_pure _
  unfold sendField
  refine (sure_gatherLayout _).bind fun counts => Act.sure_perform_bind fun reply fine =>
    (sure_checked fun _ wrong => by subst wrong; cases fine).bind fun gathered =>
    Act.sure_get_bind fun c => ?_
  dsimp only
  split
  · exact (Act.sure_set trivial).bind fun _ => (sure_lift _).bind onward
  · exact (Act.sure_pure _).bind onward

theorem sure_receiveField (peer : Int32) (name : String) (buffer : List Float) :
    (receiveField peer name buffer).Sure Collected fun _ => True := by
  unfold receiveField
  refine (sure_gatherLayout _).bind fun counts => Act.sure_get_bind fun c => ?_
  -- the status goes round the group, and with it either nothing or the values
  have onward (status : Status) :
      (shareStatus status >>= fun shared =>
        if Status.failed shared then pure (shared, buffer)
        else Act.gets MessageChannel.staging >>= fun staging =>
          Act.perform (I := Parallel)
              (.scatterReals .application (staging.map Slot.value) counts buffer) >>= fun reply =>
            checked "MPI_Scatterv" reply >>= fun values => pure (Int32.ofNat buffer.length, values) :
          Act Parallel MessageChannel (Status × List Float)).Sure Collected fun _ => True := by
    refine (sure_shareStatus status).bind fun shared => ?_
    split
    · exact Act.sure_pure _
    · exact Act.sure_gets.bind fun _ => Act.sure_perform_bind fun reply fine =>
        (sure_checked fun _ wrong => by subst wrong; cases fine).bind fun _ => Act.sure_pure _
  dsimp only
  split
  · exact (sure_lift _).bind fun received => (Act.sure_set trivial).bind fun _ =>
      (Act.sure_pure _).bind onward
  · exact (Act.sure_pure _).bind onward

end Channel.MessageChannel

namespace Coupling

open Channel Parallel Simulation

/-! ## Settings -/

section Settings

variable {φ α : Type} {log : Log Parallel}

/-- A fluid solver that does not fault from a sound state, and leaves a sound state. -/
structure Obliging [FluidSolver φ] (sound : φ → Prop) : Prop where
  computes : ∀ session run buffer fluid, sound fluid →
    (FluidSolver.computeForces session run buffer fluid).1.1 = .ok () ∧
      sound (FluidSolver.computeForces session run buffer fluid).2
  imposes : ∀ session displacement fluid, sound fluid →
    (FluidSolver.imposeDisplacement session displacement fluid).1 = .ok () ∧
      sound (FluidSolver.imposeDisplacement session displacement fluid).2
  decides : ∀ session converged fluid, sound fluid →
    (∃ peer, (FluidSolver.peerConvergence session converged fluid).1 = .ok peer) ∧
      sound (FluidSolver.peerConvergence session converged fluid).2

/-- A request that only the fluid solver could spoil is benign if its reply is no fault. -/
theorem benign_of_ok {request : Coupling.Request} {reply : request.Reply}
    (sound : request.faults reply = false)
    (computed : request.computesForces = false) (imposed : request.imposesDisplacement = false)
    (asked : ∀ session own, request ≠ .peerConvergence session own) : Benign ⟨request, reply⟩ where
  sound := sound
  computed := fun session run buffer _ same => by cases same; cases computed
  imposed := fun session values _ same => by cases same; cases imposed
  asked := fun session own _ same => by cases same; exact absurd rfl (asked session own)

theorem benign_computeForces {session : Session} {run : RunControl} {buffer : List Float}
    {reply : Except Fault Unit × List Float} (value : reply.1 = .ok ()) :
    Benign ⟨.computeForces session run buffer, reply⟩ where
  sound := rfl
  computed := fun _ _ _ _ same => by cases same; exact value
  imposed := fun _ _ _ same => by cases same
  asked := fun _ _ _ same => by cases same

theorem benign_imposeDisplacement {session : Session} {displacement : List Float}
    {reply : Except Fault Unit} (value : reply = .ok ()) :
    Benign ⟨.imposeDisplacement session displacement, reply⟩ where
  sound := rfl
  computed := fun _ _ _ _ same => by cases same
  imposed := fun _ _ _ same => by cases same; exact value
  asked := fun _ _ _ same => by cases same

theorem benign_peerConvergence {session : Session} {own : Bool} {reply : Except Fault Bool}
    (value : ∃ peer, reply = .ok peer) : Benign ⟨.peerConvergence session own, reply⟩ where
  sound := rfl
  computed := fun _ _ _ _ same => by cases same
  imposed := fun _ _ _ same => by cases same
  asked := fun _ _ _ same => by cases same; exact value

namespace Setting

variable {s t : Setting φ}

theorem runs_useGroup {process : Group → Act Parallel Unit α}
    {simulated : PartitionedGroup → α × PartitionedGroup} {result : Except Fault α}
    (sure : ∀ g, (process g).Sure Collected fun _ => True)
    (run : (s.useGroup process simulated).Runs log (result, t)) (fine : ∀ e ∈ log, Collected e) :
    (∃ value, result = .ok value) ∧ t.fluid = s.fluid := by
  unfold useGroup at run
  cases group : s.group with
  | process g =>
    rw [group] at run
    obtain ⟨_, result', _, rfl, inner, last⟩ := Program.runs_bind.1 run
    obtain ⟨_, ⟨result'', ⟨⟩⟩, _, rfl, asked, ended⟩ := Program.runs_bind.1 inner
    obtain ⟨rfl, rfl⟩ := Program.runs_done.1 ended
    obtain ⟨rfl, same⟩ := Program.runs_done.1 last
    obtain ⟨rfl, rfl⟩ := Prod.mk.inj same
    rw [List.append_nil, List.append_nil] at fine
    exact ⟨(sure g _ _ _ _ asked fine trivial).1, rfl⟩
  | partitioned g =>
    rw [group] at run
    obtain ⟨-, same⟩ := Program.runs_done.1 run
    obtain ⟨rfl, rfl⟩ := Prod.mk.inj same
    exact ⟨⟨_, rfl⟩, rfl⟩

theorem runs_useField {messages : Act Parallel MessageChannel α}
    {simulated : ScriptedPeer → α × ScriptedPeer} {result : Except Fault α}
    (sure : messages.Sure Collected fun _ => True)
    (run : (s.useField messages simulated).Runs log (result, t)) (fine : ∀ e ∈ log, Collected e) :
    (∃ value, result = .ok value) ∧ t.fluid = s.fluid := by
  unfold useField at run
  cases channel : s.channel with
  | messages c =>
    rw [channel] at run
    obtain ⟨_, ⟨result', c'⟩, _, rfl, asked, last⟩ := Program.runs_bind.1 run
    obtain ⟨rfl, same⟩ := Program.runs_done.1 last
    obtain ⟨rfl, rfl⟩ := Prod.mk.inj same
    rw [List.append_nil] at fine
    exact ⟨(sure _ _ _ _ asked fine trivial).1, rfl⟩
  | scripted p =>
    rw [channel] at run
    obtain ⟨-, same⟩ := Program.runs_done.1 run
    obtain ⟨rfl, rfl⟩ := Prod.mk.inj same
    exact ⟨⟨_, rfl⟩, rfl⟩

theorem runs_useControl {messages : Program Parallel α}
    {simulated : ScriptedPeer → α × ScriptedPeer} {value : α}
    (run : (s.useControl messages simulated).Runs log (value, t)) : t.fluid = s.fluid := by
  unfold useControl at run
  split at run
  · obtain ⟨_, _, _, -, -, last⟩ := Program.runs_bind.1 run
    obtain ⟨-, same⟩ := Program.runs_done.1 last
    rw [(Prod.mk.inj same).2]
  · obtain ⟨-, same⟩ := Program.runs_done.1 run
    rw [(Prod.mk.inj same).2]

theorem runs_closeChannel {peer : Int32} (run : (s.closeChannel peer).Runs log ((), t)) :
    t.fluid = s.fluid := by
  unfold closeChannel at run
  split at run
  · obtain ⟨_, _, _, -, -, last⟩ := Program.runs_bind.1 run
    obtain ⟨-, same⟩ := Program.runs_done.1 last
    rw [(Prod.mk.inj same).2]
  · obtain ⟨-, same⟩ := Program.runs_done.1 run
    rw [(Prod.mk.inj same).2]

/-- Collective operations that succeed and a solver that does not fault leave nothing that could
spoil a coupled run. -/
theorem benign_of_answer [FluidSolver φ] {sound : φ → Prop} (obliging : Obliging sound)
    (request : Coupling.Request) {reply : request.Reply}
    (run : (answer request s).Runs log (reply, t)) (fine : ∀ e ∈ log, Collected e)
    (start : sound s.fluid) : Benign ⟨request, reply⟩ ∧ sound t.fluid := by
  unfold answer at run
  cases request with
  | sumReals values =>
    obtain ⟨⟨_, rfl⟩, same⟩ := runs_useGroup (fun g => g.sure_reduceReals _ _) run fine
    exact ⟨benign_of_ok rfl rfl rfl fun _ _ => nofun, same ▸ start⟩
  | sumCounts values =>
    obtain ⟨⟨_, rfl⟩, same⟩ := runs_useGroup (fun g => g.sure_sumCounts _) run fine
    exact ⟨benign_of_ok rfl rfl rfl fun _ _ => nofun, same ▸ start⟩
  | broadcastReals buffer =>
    obtain ⟨⟨_, rfl⟩, same⟩ := runs_useGroup (fun g => g.sure_broadcastReals _ _) run fine
    exact ⟨benign_of_ok rfl rfl rfl fun _ _ => nofun, same ▸ start⟩
  | broadcastInts buffer =>
    obtain ⟨⟨_, rfl⟩, same⟩ := runs_useGroup (fun g => g.sure_broadcastInts _ _) run fine
    exact ⟨benign_of_ok rfl rfl rfl fun _ _ => nofun, same ▸ start⟩
  | sendInts | sendReals | receiveInts | receiveReals =>
    exact ⟨benign_of_ok rfl rfl rfl fun _ _ => nofun, runs_useControl run ▸ start⟩
  | sendField peer name values =>
    obtain ⟨⟨_, rfl⟩, same⟩ := runs_useField (MessageChannel.sure_sendField _ _ _) run fine
    exact ⟨benign_of_ok rfl rfl rfl fun _ _ => nofun, same ▸ start⟩
  | receiveField peer name buffer =>
    obtain ⟨⟨_, rfl⟩, same⟩ := runs_useField (MessageChannel.sure_receiveField _ _ _) run fine
    exact ⟨benign_of_ok rfl rfl rfl fun _ _ => nofun, same ▸ start⟩
  | close peer =>
    exact ⟨benign_of_ok rfl rfl rfl fun _ _ => nofun, runs_closeChannel run ▸ start⟩
  | computeForces session run' buffer =>
    obtain ⟨-, same⟩ := Program.runs_done.1 run
    obtain ⟨rfl, rfl⟩ := Prod.mk.inj same
    obtain ⟨value, still⟩ := obliging.computes session run' buffer s.fluid start
    exact ⟨benign_computeForces value, still⟩
  | imposeDisplacement session displacement =>
    obtain ⟨-, same⟩ := Program.runs_done.1 run
    obtain ⟨rfl, rfl⟩ := Prod.mk.inj same
    obtain ⟨value, still⟩ := obliging.imposes session displacement s.fluid start
    exact ⟨benign_imposeDisplacement value, still⟩
  | peerConvergence session own =>
    obtain ⟨-, same⟩ := Program.runs_done.1 run
    obtain ⟨rfl, rfl⟩ := Prod.mk.inj same
    obtain ⟨value, still⟩ := obliging.decides session own s.fluid start
    exact ⟨benign_peerConvergence value, still⟩
  | note notice =>
    obtain ⟨_, _, _, -, -, last⟩ := Program.runs_bind.1 run
    obtain ⟨-, same⟩ := Program.runs_done.1 last
    obtain ⟨rfl, rfl⟩ := Prod.mk.inj same
    exact ⟨benign_of_ok rfl rfl rfl fun _ _ => nofun, start⟩

/-- An act in a setting runs on its own, and the setting serves its requests. -/
theorem runs_embed_iff [FluidSolver φ] {σ : Type} {act : Act Coupling σ α} {c d : σ}
    {result : Except Fault α} :
    (embed act).Runs (c, s) log result (d, t) ↔
      ∃ own, act.Runs c own result d ∧ Program.Served answer s own log t := by
  refine Program.runs_bind_done.trans ?_
  constructor
  · rintro ⟨⟨⟨result', d'⟩, t'⟩, run, same⟩
    obtain ⟨rfl, states⟩ := Prod.mk.inj same
    obtain ⟨rfl, rfl⟩ := Prod.mk.inj states
    exact Program.runs_via_iff.1 run
  · rintro run
    exact ⟨((result, d), t), Program.runs_via_iff.2 run, rfl⟩

/-- In such a setting an act has a run of its own with benign exchanges only. -/
theorem runs_embed [FluidSolver φ] {sound : φ → Prop} (obliging : Obliging sound) {σ : Type}
    {act : Act Coupling σ α} {c d : σ} {result : Except Fault α}
    (run : (embed act).Runs (c, s) log result (d, t)) (fine : ∀ e ∈ log, Collected e)
    (start : sound s.fluid) :
    ∃ own, act.Runs c own result d ∧ (∀ e ∈ own, Benign e) ∧ sound t.fluid := by
  obtain ⟨own, runs, served⟩ := runs_embed_iff.1 run
  exact ⟨own, runs, served.gains (K := fun s => sound s.fluid)
    (fun request _ _ _ _ run fine start => benign_of_answer obliging request run fine start) fine
    start⟩

end Setting

end Settings

end Coupling

namespace Programs.Fluid

open Channel Coupling Parallel

/-! ## Drivers -/

/-- The calls that a driver can make after its last one, if it has made any. -/
inductive Follows : Option Operation → Phase → Operation → Prop
  | begin {phase : Phase} : Follows none phase .begin
  | runStep {last : Operation} (between : last = .begin ∨ last = .endStep) (own : Float) :
    Follows (some last) .active (.runStep own)
  | endStep {own : Float} {phase : Phase} : Follows (some (.runStep own)) phase .endStep
  | finish {last : Operation} {phase : Phase} (between : last = .begin ∨ last = .endStep) :
    Follows (some last) phase .finish

variable {φ : Type} [FluidSolver φ] {x y z : Coupled φ}

/-- The calls that a driver has made, up to the last one.  All collective operations have
succeeded. -/
inductive Driving (x : Coupled φ) : Option Operation → Coupled φ → Prop
  | idle : Driving x none x
  | call {last : Option Operation} {operation : Operation} {y z : Coupled φ} {log : Log Parallel}
      {outcome : Except Fault Answer} (before : Driving x last y)
      (next : Follows last y.1.phase operation)
      (run : (Setting.embed operation.perform).Runs y log outcome z)
      (collected : ∀ e ∈ log, Collected e) : Driving x (some operation) z

/-- How the controller stands after a call. -/
def Stands : Option Operation → Controller → Prop
  | none, c =>
    c.phase = .uninitialized ∧ c.session.isRegistered = true ∧ c.staged.Equipped
  | some (.runStep _), c => c.Equipped ∧ c.phase = .stepDone
  | some .finish, _ => True
  | some _, c => c.Equipped

theorem Stands.equipped {operation : Operation} {c : Controller}
    (h : Stands (some operation) c) (onward : operation ≠ .finish) : c.Equipped := by
  cases operation with
  | finish => exact absurd rfl onward
  | runStep => exact h.1
  | _ => exact h

theorem stands_of_register {place : Place} {surface : Surface} {length : Float}
    {parameters : Parameters} {peer : Discovery.Peer} {session : Session}
    {registering : Log Coupling} (positive : (0.0 : Float) < length)
    (registered : (Session.register place surface length).Runs (Session.new parameters peer)
      registering (.ok ()) session) (run : RunControl) :
    Stands none { place, session, run } := by
  obtain ⟨faces, vertices, rfl⟩ := Controller.runs_register registered
  exact ⟨rfl, rfl, ⟨⟨⟨Session.sized_attach _ _ _ _ _, rfl⟩, rfl⟩, positive⟩⟩

/-- The next call of a driver does not fault. -/
theorem stands_of_call {last : Option Operation} {operation : Operation} {c d : Controller}
    {log : Log Coupling} {outcome : Except Fault Answer} (stands : Stands last c)
    (next : Follows last c.phase operation) (run : operation.perform.Runs c log outcome d)
    (benign : ∀ e ∈ log, Benign e) :
    (∃ answer, outcome = .ok answer) ∧ Stands (some operation) d ∧
      ∀ own, operation = .runStep own → c.Equipped ∧ c.phase = .active ∧ c.StepMade own d := by
  obtain ⟨phase, turn⟩ : ∃ phase, c.phase = phase := ⟨_, rfl⟩
  rw [turn] at next
  cases next with
  | begin =>
    obtain ⟨_, begun, rfl⟩ := Act.runs_bind_pure.1 run
    obtain ⟨fresh, registered, equipped⟩ := stands
    obtain ⟨rfl, kin, -⟩ := Controller.runs_begin_benign fresh registered begun benign
    exact ⟨⟨_, rfl⟩, equipped.kin kin, nofun⟩
  | runStep between own =>
    obtain ⟨_, stepped, rfl⟩ := Act.runs_bind_pure.1 run
    have equipped : c.Equipped := by rcases between with rfl | rfl <;> exact stands
    obtain ⟨⟨dt, rfl⟩, made, still, done⟩ :=
      Controller.runs_runStep_benign equipped turn stepped benign
    refine ⟨⟨_, rfl⟩, ⟨still, done⟩, ?_⟩
    rintro _ ⟨⟩
    exact ⟨equipped, turn, made⟩
  | endStep =>
    obtain ⟨_, ended, rfl⟩ := Act.runs_bind_pure.1 run
    obtain ⟨equipped, done⟩ := stands
    obtain ⟨-, rfl, rfl⟩ := Controller.runs_endStep_of_done done ended
    exact ⟨⟨_, rfl⟩, equipped.kin (Controller.kin_completed c), nofun⟩
  | finish between =>
    obtain ⟨_, finished, rfl⟩ := Act.runs_bind_pure.1 run
    obtain ⟨rfl, -⟩ := Controller.runs_finish finished
    exact ⟨⟨_, rfl⟩, trivial, nofun⟩

theorem stands_of_driving {sound : φ → Prop} (obliging : Obliging sound) {last : Option Operation}
    (start : Stands none x.1) (fluid : sound x.2.fluid) (driving : Driving x last y) :
    Stands last y.1 ∧ sound y.2.fluid := by
  induction driving with
  | idle => exact ⟨start, fluid⟩
  | call _ next run collected ih =>
    obtain ⟨stands, kept⟩ := ih
    obtain ⟨own, inner, benign, still⟩ := Setting.runs_embed obliging run collected kept
    exact ⟨(stands_of_call stands next inner benign).2.1, still⟩

/-- No call of a driver faults, whatever the peer does: neither a failed message nor a wrong one can
spoil a run with a positive reference length.  Until the run is finished the buffers have the sizes
that the checks of all stages ask for, and each step ends after a sub-iteration that is its last. -/
theorem calls_never_fault {sound : φ → Prop} (obliging : Obliging sound) {place : Place}
    {surface : Surface} {length : Float} {parameters : Parameters} {peer : Discovery.Peer}
    {session : Session} {registering : Log Coupling} {run : RunControl} {setting : Setting φ}
    {last : Option Operation} {operation : Operation} {log : Log Parallel}
    {outcome : Except Fault Answer} (positive : (0.0 : Float) < length)
    (registered : (Session.register place surface length).Runs (Session.new parameters peer)
      registering (.ok ()) session)
    (fluid : sound setting.fluid) (driving : Driving ({ place, session, run }, setting) last y)
    (next : Follows last y.1.phase operation)
    (call : (Setting.embed operation.perform).Runs y log outcome z)
    (collected : ∀ e ∈ log, Collected e) :
    (∃ answer, outcome = .ok answer) ∧ (operation ≠ .finish → z.1.Equipped) ∧
      ∀ own, operation = .runStep own → z.1.phase = .stepDone ∧ y.1.StepMade own z.1 ∧
        ∀ first rest c, (Controller.runStepStages own).Reaches y.1 first rest c →
          (∀ e ∈ first, Benign e) → c.Equipped := by
  obtain ⟨stands, kept⟩ :=
    stands_of_driving obliging (stands_of_register positive registered run) fluid driving
  obtain ⟨own, inner, benign, -⟩ := Setting.runs_embed obliging call collected kept
  obtain ⟨answer, after, step⟩ := stands_of_call stands next inner benign
  refine ⟨answer, after.equipped, ?_⟩
  rintro own rfl
  obtain ⟨equipped, turn, made⟩ := step own rfl
  exact ⟨after.2, made, fun _ _ _ reached calm =>
    Controller.equipped_of_reached equipped turn reached calm⟩

namespace Garbled

/-- A process alone in its group, whose peer takes everything and sends noise. -/
def reply : (request : Parallel.Request) → request.Reply
  | .isStarted | .isStopped => true
  | .describe => ⟨4, 1, "none"⟩
  | .start | .stop | .duplicate _ | .returnErrors _ | .split .. | .barrier _ => .ok ()
  | .abort _ | .free _ | .note _ | .setUpJournal _ => ()
  | .rank _ => .ok 0
  | .size _ => .ok 1
  | .broadcastReals _ _ values | .reduceReals _ _ values | .gatherReals _ values _
  | .scatterReals _ _ _ values => .ok values
  | .broadcastInts _ _ values | .reduceInts _ _ values => .ok values
  | .sumCounts _ values => .ok values
  | .declare _ own => .ok own
  | .gatherCount _ own => .ok [own]
  | .sendHeader .. | .sendPayload .. => .ok ()
  | .receiveHeader _ => .ok ⟨7, 3, 5, "noise"⟩
  | .receivePayload .. => .error 15
  | .readFile _ => none

theorem collected_reply {act : Act Parallel (Coupled Unit) Answer} {x : Coupled Unit}
    {e : Exchange Parallel} (member : e ∈ ((act x).follow reply).1) : Collected e := by
  rw [Program.mem_follow member]
  cases e.request <;> rfl

theorem obliging_unit : Obliging fun _ : Unit => True :=
  ⟨fun _ _ _ _ _ => ⟨rfl, trivial⟩, fun _ _ _ _ => ⟨rfl, trivial⟩,
    fun _ _ _ _ => ⟨⟨_, rfl⟩, trivial⟩⟩

def start : Coupled Unit :=
  (EchoedRun.start, ⟨.process ⟨.application, {}, false⟩, .messages { place := {} }, ()⟩)

def begun : Log Parallel × Except Fault Answer × Coupled Unit :=
  (Setting.embed Operation.begin.perform start).follow reply

def stepped : Log Parallel × Except Fault Answer × Coupled Unit :=
  (Setting.embed (Operation.runStep 0.5).perform begun.2.2).follow reply

/-- The negotiation meets noise, the peer is lost, and the step goes on to its end. -/
theorem calls_never_fault_garbled :
    stepped.2.2.1.session.isTerminated = true ∧ (∃ answer, stepped.2.1 = .ok answer) ∧
      stepped.2.2.1.Equipped ∧ stepped.2.2.1.phase = .stepDone := by
  have registering : (Session.register {} EchoedRun.surface 1.0).Runs
      (Session.new {} { root := 1 }) EchoedRun.registered.1 (.ok ())
      EchoedRun.registered.2.2 :=
    Act.runs_follow (I := Coupling) (Controller.echo Status.ok) _ _
  have driving : Driving start (some .begin) begun.2.2 :=
    .call .idle .begin (Act.runs_follow (I := Parallel) reply _ _) fun e => collected_reply
  obtain ⟨answer, equipped, done⟩ := calls_never_fault obliging_unit (by decide) registering trivial
    driving (.runStep (.inl rfl) 0.5) (Act.runs_follow (I := Parallel) reply _ _)
    fun e => collected_reply
  exact ⟨rfl, answer, equipped nofun, (done 0.5 rfl).1⟩

end Garbled

end Programs.Fluid

end FluidStructure
