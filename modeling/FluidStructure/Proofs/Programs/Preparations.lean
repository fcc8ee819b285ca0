import FluidStructure.Programs.Fluid
import FluidStructure.Proofs.Coupling.Attachment
import FluidStructure.Proofs.Network.Receipts
import FluidStructure.Proofs.Programs.Driver
import FluidStructure.Proofs.Programs.Reports

/-!
# The program around the exchange

Before a program exchanges anything with the other one it starts, reads its configuration, finds
the other program and sets up a channel, and afterwards it takes all of this down again.  None of
this takes part in the exchange or reports what comes of it.
-/

namespace FluidStructure

/-- Does the notice tell what a coupled run has computed? -/
def Journal.Notice.tellsResults : Journal.Notice → Bool
  | wallOutput .. | fluidStep .. | structureStep .. | structureFinished .. => true
  | _ => false

/-- Belongs to a coupled run: messages, collective operations on its values, and what is reported
of them. -/
def Parallel.Request.couples : Parallel.Request → Bool
  | barrier .. | broadcastReals .. | broadcastInts .. | reduceReals .. | reduceInts .. => true
  | gatherCount .. | gatherReals .. | scatterReals .. => true
  | sendHeader .. | sendPayload .. | receiveHeader .. | receivePayload .. => true
  | note notice => notice.tellsResults
  | _ => false

namespace Programs

open FluidStructure.Channel FluidStructure.Journal FluidStructure.Parallel
open Network (arrived)

/-- A request that belongs to no coupled run. -/
def Aside (request : Request) : Prop := request.couples = false

theorem Aside.reticent {request : Request} (h : Aside request) : Structure.Reticent request := by
  cases request with
  | note notice => cases notice <;> first | exact ⟨rfl, rfl⟩ | cases h
  | _ => exact ⟨rfl, rfl⟩

theorem Aside.arrival {request : Request} (h : Aside request) (reply : request.Reply) :
    Network.arrival ⟨request, reply⟩ = .empty := by
  cases request <;> first | rfl | cases h

theorem arrived_of_aside {log : Log Parallel} (h : ∀ made ∈ log, Aside made.request) :
    arrived log = .empty := by
  induction log with
  | nil => rfl
  | cons made log ih =>
    obtain ⟨first, others⟩ := List.forall_mem_cons.1 h
    show Network.arrival made ++ arrived log = .empty
    rw [ih others, show Network.arrival made = .empty from Aside.arrival first made.reply]
    rfl

/-- Nothing but preparations, or a core between preparations and a conclusion. -/
def Hosts (core : Log Parallel → Prop) (log : Log Parallel) : Prop :=
  (∀ made ∈ log, Aside made.request) ∨
    ∃ before part after, log = before ++ (part ++ after) ∧ core part ∧
      (∀ made ∈ before, Aside made.request) ∧ ∀ made ∈ after, Aside made.request

namespace Hosts

variable {core : Log Parallel → Prop} {first second : Log Parallel}

theorem of_core (h : core first) : Hosts core first :=
  .inr ⟨[], first, [], (List.append_nil first).symm, h, List.forall_mem_nil _, List.forall_mem_nil _⟩

theorem after (quiet : ∀ made ∈ first, Aside made.request) (h : Hosts core second) :
    Hosts core (first ++ second) := by
  rcases h with aside | ⟨before, part, after, rfl, h, quiet', still⟩
  · exact .inl (List.forall_mem_append.2 ⟨quiet, aside⟩)
  · exact .inr ⟨first ++ before, part, after, (List.append_assoc ..).symm, h,
      List.forall_mem_append.2 ⟨quiet, quiet'⟩, still⟩

theorem before (h : Hosts core first) (quiet : ∀ made ∈ second, Aside made.request) :
    Hosts core (first ++ second) := by
  rcases h with aside | ⟨before, part, after, rfl, h, quiet', still⟩
  · exact .inl (List.forall_mem_append.2 ⟨aside, quiet⟩)
  · refine .inr ⟨before, part, after ++ second, ?_, h, quiet',
      List.forall_mem_append.2 ⟨still, quiet⟩⟩
    rw [List.append_assoc, List.append_assoc]

end Hosts

/-- All runs host a core. -/
def Hosting {σ α : Type} (core : Log Parallel → Prop) (act : Act Parallel σ α) : Prop :=
  ∀ s log result t, act.Runs s log result t → Hosts core log

section Hosting

variable {core : Log Parallel → Prop} {σ τ α β : Type} {act : Act Parallel σ α}

theorem hosting_of_asks (asks : act.Asks Aside) : Hosting core act := fun _ _ _ _ run =>
  .inl (asks.of_runs run)

/-- What follows may count on what is known of the value. -/
theorem hosting_bind_of {known : α → Prop} {f : α → Act Parallel σ β} (first : act.Asks Aside)
    (gives : ∀ s log value t, act.Runs s log (.ok value) t → known value)
    (later : ∀ value, known value → Hosting core (f value)) : Hosting core (act >>= f) := by
  intro s log result t run
  rcases Act.runs_bind.1 run with ⟨before, value, u, after, rfl, h, k⟩ | ⟨fault, -, h⟩
  · exact .after (first.of_runs h) (later value (gives _ _ _ _ h) _ _ _ _ k)
  · exact .inl (first.of_runs h)

theorem hosting_bind {f : α → Act Parallel σ β} (first : act.Asks Aside)
    (later : ∀ value, Hosting core (f value)) : Hosting core (act >>= f) :=
  hosting_bind_of first (fun _ _ _ _ _ => trivial) fun value _ => later value

theorem hosting_bind_pure {f : α → β} (h : Hosting core act) :
    Hosting core (act >>= fun value => pure (f value)) := by
  intro s log result t run
  obtain ⟨outcome, run, -⟩ := Act.runs_bind_pure.1 run
  exact h _ _ _ _ run

theorem hosting_thenAlways {last : Act Parallel σ Unit} (h : Hosting core act)
    (later : last.Asks Aside) : Hosting core (Act.thenAlways act last) := by
  intro s log result t run
  obtain ⟨first, ⟨outcome, u⟩, second, rfl, acts, onward⟩ := Program.runs_bind.1 run
  obtain ⟨⟨_, v⟩, ends, -⟩ := Program.runs_bind_done.1 onward
  exact (h _ _ _ _ acts).before (Program.Asks.of_runs (later u) ends)

theorem hosting_handle {recover : Fault → Act Parallel σ α} (h : Hosting core act)
    (later : ∀ fault, (recover fault).Asks Aside) : Hosting core (Act.handle act recover) := by
  intro s log result t run
  obtain ⟨first, ⟨outcome, u⟩, second, rfl, acts, onward⟩ := Program.runs_bind.1 run
  refine (h _ _ _ _ acts).before ?_
  cases outcome with
  | ok value =>
    obtain ⟨rfl, -⟩ := Program.runs_done.1 onward
    exact List.forall_mem_nil _
  | error fault => exact Program.Asks.of_runs (later fault u) onward

theorem runs_of_withState {own : τ} {act : Act Parallel τ α} {s t : σ} {log : Log Parallel}
    {result : Except Fault (α × τ)} (run : (Act.withState own act).Runs s log result t) :
    ∃ outcome u, act.Runs own log outcome u := by
  obtain ⟨first, ⟨outcome, u⟩, second, rfl, acts, ends⟩ := Program.runs_bind.1 run
  refine ⟨outcome, u, ?_⟩
  cases outcome with
  | ok value =>
    obtain ⟨rfl, -⟩ := Program.runs_done.1 ends
    rwa [List.append_nil]
  | error fault =>
    obtain ⟨rfl, -⟩ := Program.runs_done.1 ends
    rwa [List.append_nil]

end Hosting

section Aside

variable {σ α β : Type}

theorem aside_note (notice : Notice) (fine : Aside (.note notice)) :
    (note notice : Act Parallel σ Unit).Asks Aside := Act.asks_perform fine

theorem aside_checked {operation : String} (outcome : Except Code α) :
    (checked operation outcome : Act Parallel σ α).Asks Aside := by
  cases outcome with
  | ok value => exact Act.asks_pure value
  | error code => exact Act.asks_fail _

theorem aside_freeUnlessStopped (c : Communicator) :
    (freeUnlessStopped c : Act Parallel σ Unit).Asks Aside := by
  refine Act.Asks.bind (Act.asks_perform rfl) fun stopped => ?_
  split
  · exact Act.asks_pure _
  · exact Act.asks_perform rfl

theorem aside_readConfiguration (file : String) :
    (readConfiguration file : Act Parallel σ Config.Section).Asks Aside := by
  refine Act.Asks.bind (Act.asks_perform rfl) fun text? => ?_
  cases text? with
  | none => exact Act.asks_fail _
  | some text => exact Act.Asks.bind (aside_note _ rfl) fun _ => Act.asks_ofExcept _

theorem aside_reportAll (apps : List Discovery.Application) :
    (Discovery.Registry.reportAll apps : Act Parallel σ Unit).Asks Aside := by
  induction apps with
  | nil => exact Act.asks_pure _
  | cons a rest ih => exact Act.Asks.bind (aside_note _ rfl) fun _ => ih

/-- An operation whose errors are faults. -/
theorem aside_asked {request : Request} {γ : Type} {operation : String}
    {reading : request.Reply → Except Code γ} {f : γ → Act Parallel σ β} (fine : Aside request)
    (later : ∀ value, (f value).Asks Aside) :
    (Act.perform (I := Parallel) request >>= fun reply =>
      checked operation (reading reply) >>= f).Asks Aside :=
  Act.Asks.bind (Act.asks_perform fine) fun reply => (aside_checked (reading reply)).bind later

theorem aside_build (own : Declaration) :
    (Discovery.Registry.build own : Act Parallel σ Discovery.Registry).Asks Aside := by
  unfold Discovery.Registry.build
  split
  · exact Act.asks_fail _
  refine aside_asked rfl fun rank => ?_
  refine aside_asked rfl fun size => ?_
  refine aside_asked rfl fun records => ?_
  refine aside_asked rfl fun _ => ?_
  split
  · exact Act.Asks.bind (aside_note _ rfl) fun _ =>
      (aside_reportAll _).bind fun _ => Act.asks_pure _
  · exact Act.asks_pure _

theorem aside_noteIf (condition : Bool) (notice : Notice) (fine : Aside (.note notice)) :
    (noteIf condition notice : Act Parallel σ Unit).Asks Aside := by
  unfold noteIf
  split
  · exact aside_note notice fine
  · exact Act.asks_pure _

theorem aside_findPlace : Lifecycle.findPlace.Asks Aside := by
  have sizes {next : Except Code Int32 → Act Parallel Lifecycle Unit}
      (known : ∀ size, (next (.ok size)).Asks Aside) (unknown : ∀ code, (next (.error code)).Asks Aside) :
      (sizeIn .world >>= next).Asks Aside := by
    refine Act.Asks.bind (Act.asks_perform rfl) fun size => ?_
    cases size with
    | ok size => exact known size
    | error code => exact unknown code
  refine Act.Asks.bind (Act.asks_perform rfl) fun rank => ?_
  cases rank with
  | ok rank =>
    exact Act.Asks.bind (Act.asks_modify _) fun _ =>
      sizes (fun _ => Act.asks_modify _) fun _ => Act.asks_pure _
  | error code => exact sizes (fun _ => Act.asks_modify _) fun _ => Act.asks_pure _

theorem aside_reportSetup : Lifecycle.reportSetup.Asks Aside := by
  refine Act.Asks.bind (aside_note _ rfl) fun _ => Act.asks_get.bind fun l => ?_
  refine Act.Asks.bind (aside_note _ rfl) fun _ => ?_
  refine Act.Asks.bind (Act.asks_perform rfl) fun d => ?_
  exact Act.Asks.bind (aside_note _ rfl) fun _ => aside_note _ rfl

theorem aside_startMessaging : Lifecycle.startMessaging.Asks Aside := by
  have places : (do
      Act.modify fun l => { l with started := true }
      Lifecycle.findPlace
      if (← Act.get).isRoot then Lifecycle.reportSetup else pure () :
        Act Parallel Lifecycle Unit).Asks Aside := by
    refine (Act.asks_modify _).bind fun _ => aside_findPlace.bind fun _ => Act.asks_get.bind fun l => ?_
    split
    · exact aside_reportSetup
    · exact Act.asks_pure _
  refine Act.asks_get.bind fun l => ?_
  split
  · exact aside_note _ rfl
  refine Act.Asks.bind (Act.asks_perform rfl) fun already => ?_
  dsimp only
  split
  · exact (Act.asks_modify _).bind fun _ => places
  · exact aside_asked rfl fun _ => (Act.asks_modify _).bind fun _ => places

theorem aside_start (options : StartOptions) : (Lifecycle.start options).Asks Aside := by
  have sets (isRoot : Bool) : (do
      setUpJournal (Lifecycle.journalSetup options isRoot)
      if isRoot then
        note .banner
        note (.starting Lifecycle.versionText)
        note .banner
      else pure () : Act Parallel Lifecycle Unit).Asks Aside := by
    refine Act.Asks.bind (Act.asks_perform rfl) fun _ => ?_
    split
    · exact Act.Asks.bind (aside_note _ rfl) fun _ =>
        Act.Asks.bind (aside_note _ rfl) fun _ => aside_note _ rfl
    · exact Act.asks_pure _
  unfold Lifecycle.start
  dsimp only
  split
  · exact aside_startMessaging.bind fun _ => Act.asks_get.bind fun _ => sets _
  · exact Act.asks_get.bind fun _ => sets _

theorem aside_stop : Lifecycle.stop.Asks Aside := by
  refine Act.asks_get.bind fun l => Act.Asks.bind (aside_noteIf _ _ rfl) fun _ => ?_
  refine Act.asks_get.bind fun l => ?_
  have ends : (Act.set { l with started := false } >>= fun _ =>
      noteIf l.isRoot .messagePassingStopped).Asks Aside :=
    (Act.asks_set _).bind fun _ => aside_noteIf _ _ rfl
  dsimp only
  split
  · split
    · refine Act.Asks.bind (Act.asks_perform rfl) fun stopped => ?_
      split
      · exact ends
      · exact Act.Asks.bind (Act.asks_perform rfl) fun _ => ends
    · exact ends
  · exact Act.asks_pure _

theorem aside_setUp : (MessageChannel.setUp : Act Parallel σ MessageChannel).Asks Aside :=
  aside_asked rfl fun _ => aside_asked rfl fun _ =>
    aside_asked rfl fun _ => aside_asked rfl fun _ =>
      Act.asks_pure _

/-- An operation whose errors are faults, and which succeeds. -/
theorem runs_asked {request : Request} {γ : Type} {operation : String}
    {reading : request.Reply → Except Code γ} {f : γ → Act Parallel σ β} {s t : σ}
    {log : Log Parallel} {value : β}
    (run : (Act.perform (I := Parallel) request >>= fun reply =>
      checked operation (reading reply) >>= f).Runs s log (.ok value) t) :
    ∃ reply x rest, log = ⟨request, reply⟩ :: rest ∧ reading reply = .ok x ∧
      (f x).Runs s rest (.ok value) t := by
  obtain ⟨reply, rest, rfl, onward⟩ := Act.runs_perform_bind.1 run
  refine ⟨reply, ?_⟩
  cases outcome : reading reply with
  | ok x =>
    rw [outcome] at onward
    exact ⟨x, rest, rfl, rfl, onward⟩
  | error code =>
    rw [outcome] at onward
    obtain ⟨-, wrong⟩ := Program.runs_done.1 onward
    cases (Prod.mk.inj wrong).1

/-- A channel knows its own rank because it has asked for it. -/
theorem rank_of_setUp {s t : σ} {log : Log Parallel} {c : MessageChannel}
    (run : (MessageChannel.setUp : Act Parallel σ MessageChannel).Runs s log (.ok c) t) :
    ⟨.rank .application, .ok c.place.rank⟩ ∈ log := by
  obtain ⟨_, _, _, rfl, -, run⟩ := runs_asked run
  obtain ⟨_, _, _, rfl, -, run⟩ := runs_asked run
  obtain ⟨reply, rank, _, rfl, known, run⟩ := runs_asked run
  obtain ⟨_, _, _, rfl, -, run⟩ := runs_asked run
  obtain ⟨-, same, -⟩ := Act.runs_pure.1 run
  obtain rfl := Except.ok.inj same
  obtain rfl : reply = .ok rank := known
  exact List.mem_cons_of_mem _ (List.mem_cons_of_mem _ List.mem_cons_self)

theorem hosting_within {core : Log Parallel → Prop} {act : Act Parallel Lifecycle α}
    (h : Hosting core act) (options : StartOptions) :
    Hosting core (Lifecycle.within options act) :=
  hosting_bind (aside_start _) fun _ => hosting_thenAlways h aside_stop

end Aside

/-! ## The structure -/

namespace Structure

/-- A channel is set up, and the exchange runs on it.  The rank of the channel is the one that was
asked for. -/
def Exchanged (log : Log Parallel) : Prop :=
  ∃ l o c first part result d, log = first ++ part ∧ (exchange l o).Runs c part result d ∧
    ⟨.rank .application, .ok c.place.rank⟩ ∈ first ∧ ∀ made ∈ first, Aside made.request

theorem aside_ownSize : (ownSize : Act Parallel Lifecycle Int32).Asks Aside := by
  refine Act.Asks.bind (Act.asks_perform rfl) fun size => ?_
  cases size <;> exact Act.asks_pure _

theorem hosting_exchange (l : Layout) (o : Oscillator) :
    Hosting Exchanged (MessageChannel.setUp >>= fun channel => Act.thenAlways
      (Act.withState channel (exchange l o) >>= fun (code, _) => pure code :
        Act Parallel Lifecycle Int32) MessageChannel.takeDown) := by
  intro s log result t run
  rcases Act.runs_bind.1 run with ⟨first, c, u, second, rfl, sets, onward⟩ | ⟨fault, rfl, sets⟩
  swap
  · exact .inl (aside_setUp.of_runs sets)
  obtain ⟨part, ⟨outcome, v⟩, last, rfl, acts, onward⟩ := Program.runs_bind.1 onward
  obtain ⟨⟨_, w⟩, ends, -⟩ := Program.runs_bind_done.1 onward
  obtain ⟨_, owns, -⟩ := Act.runs_bind_pure.1 acts
  obtain ⟨outcome, d, exchanges⟩ := runs_of_withState owns
  rw [← List.append_assoc]
  refine Hosts.before (Hosts.of_core ?_)
    (Program.Asks.of_runs (aside_freeUnlessStopped (σ := Lifecycle) .joint v) ends)
  exact ⟨l, o, c, first, part, outcome, d, rfl, exchanges, rank_of_setUp sets,
    aside_setUp.of_runs sets⟩

theorem hosting_couple (structural flap : Config.Section) (registry : Discovery.Registry) :
    Hosting Exchanged (couple structural flap registry) := by
  refine hosting_bind aside_ownSize fun size => ?_
  split
  · exact hosting_of_asks (Act.asks_fail _)
  dsimp only
  split
  · exact hosting_of_asks (Act.asks_fail _)
  refine hosting_bind (Act.asks_ofExcept _) fun faces => hosting_bind (Act.asks_ofExcept _) fun o => ?_
  exact hosting_bind (Act.asks_ofExcept _) fun proposedStep => hosting_exchange _ o

theorem hosting_program (file : String) : Hosting Exchanged (program file) := by
  refine hosting_within (hosting_handle ?_ fun fault => ?_) _
  · refine hosting_bind (aside_readConfiguration file) fun config => ?_
    refine hosting_bind (Act.asks_ofExcept _) fun structural => ?_
    refine hosting_bind (Act.asks_ofExcept _) fun flap => ?_
    refine hosting_bind (aside_build _) fun registry => ?_
    exact hosting_thenAlways (hosting_couple _ _ _) (aside_freeUnlessStopped _)
  · exact Act.Asks.bind (aside_note _ rfl) fun _ =>
      Act.Asks.bind (Act.asks_perform rfl) fun _ => Act.asks_pure _

end Structure

/-! ## The fluid -/

namespace Fluid

open Coupling

/-- A run can begin, with an interface and in the setting of a process. -/
structure Fresh {φ : Type} (x : Coupled φ) : Prop where
  phase : x.1.phase = .uninitialized
  registered : x.1.session.isRegistered = true
  group : ∃ g, x.2.group = .process g
  channel : ∃ c, x.2.channel = .messages c

/-- The time loop runs from a fresh state. -/
def Looped (log : Log Parallel) : Prop :=
  ∃ place p out x result y, Fresh x ∧
    (timeLoop place p PulsatingChannel.meanDisplacement out).Runs x log result y

section Registration

variable {σ : Type} {group : Group} {channel : MessageChannel} {p : Parameters}
  {peer : Discovery.Peer} {surface : Surface}

theorem aside_register (place : Place) (length : Float) :
    (Setting.embed (Session.register place surface length) :
      Act Parallel (Session × Setting Unit) Unit).Asks Aside := by
  -- the registration asks for sums and reports, and no setting makes more of that
  have sums (values : List Int64) (s : Setting Unit) :
      (Setting.answer (.sumCounts values) s).Asks Aside := by
    show (s.useGroup (fun g => g.sumCounts values) (fun g => g.sumCounts values)).Asks Aside
    unfold Setting.useGroup
    split
    · exact ⟨rfl, fun reply => by cases reply <;> trivial⟩
    · trivial
  have asks : (Session.register place surface length).Asks fun request =>
      ∀ s : Setting Unit, (Setting.answer request s).Asks Aside := by
    refine Act.asks_get.bind fun s => (Act.asks_ofExcept _).bind fun _ =>
      (Act.asks_modify _).bind fun _ => ?_
    refine Act.Asks.bind (Act.Asks.bind (Act.asks_perform (sums _)) fun _ => Act.asks_ofExcept _)
      fun counts => ?_
    refine (Act.asks_modify _).bind fun _ => Act.asks_get.bind fun s => ?_
    unfold Coupling.noteIf
    split
    · exact Act.asks_perform fun s => ⟨rfl, fun _ => trivial⟩
    · exact Act.asks_pure _
  exact fun (s, setting) => ((asks s).via (fun request t h => h t) setting).bind fun _ => trivial

theorem aside_registered :
    (registered group channel p peer surface : Act Parallel σ Session).Asks Aside := by
  refine Act.Asks.bind (fun s => ?_) fun _ => Act.asks_pure _
  refine (aside_register group.place p.referenceLength _).bind fun (outcome, _) => ?_
  cases outcome <;> trivial

theorem isRegistered_of_registered {s t : σ} {log : Log Parallel} {session : Session}
    (run : (registered group channel p peer surface : Act Parallel σ Session).Runs s log
      (.ok session) t) : session.isRegistered = true := by
  obtain ⟨outcome, run, value⟩ := Act.runs_bind_pure.1 run
  obtain ⟨first, ⟨outcome', session', setting⟩, last, rfl, registers, ends⟩ := Program.runs_bind.1 run
  cases outcome' with
  | ok =>
    obtain ⟨-, same⟩ := Program.runs_done.1 ends
    obtain ⟨rfl, -⟩ := Prod.mk.inj same
    obtain rfl := Except.ok.inj value
    obtain ⟨own, registers, -⟩ := Setting.runs_embed_iff.1 registers
    obtain ⟨_, _, rfl⟩ := Controller.runs_register registers
    rfl
  | error fault =>
    obtain ⟨-, same⟩ := Program.runs_done.1 ends
    obtain ⟨rfl, -⟩ := Prod.mk.inj same
    cases value

end Registration

theorem aside_configureJournal (config : Config.Section) : (configureJournal config).Asks Aside := by
  unfold configureJournal
  split
  · exact Act.asks_pure _
  refine (Act.asks_ofExcept _).bind fun level => Act.asks_get.bind fun l => ?_
  split
  · refine (Act.asks_ofExcept _).bind fun toFile => ?_
    split
    · exact (Act.asks_ofExcept _).bind fun file => Act.asks_perform rfl
    · exact Act.asks_perform rfl
  · exact Act.asks_pure _

theorem aside_settle {σ : Type} (finding : Discovery.Finding) (wanted : String) :
    (finding.settle wanted : Act Parallel σ Discovery.Peer).Asks Aside := by
  have onward : (Act.ofExcept (finding.resolve wanted) : Act Parallel σ Discovery.Peer).Asks Aside :=
    Act.asks_ofExcept _
  unfold Discovery.Finding.settle Discovery.Finding.notice?
  cases finding.outcome with
  | noPeer => exact Act.Asks.bind (aside_note _ rfl) fun _ => onward
  | singlePeer => exact Act.Asks.bind (aside_note _ rfl) fun _ => onward
  | ambiguousPeers => exact onward

theorem hosting_simulate (config : Config.Section) (p : Parameters) (group : Group)
    (peer : Discovery.Peer) (channel : MessageChannel) :
    Hosting Looped (simulate config p group peer channel) := by
  have features : (Lifecycle.reportFeatures : Act Parallel Lifecycle Unit).Asks Aside :=
    Act.Asks.bind (Act.asks_perform rfl) fun _ => Act.Asks.bind (aside_note _ rfl) fun _ =>
      Act.Asks.bind (aside_note _ rfl) fun _ => Act.Asks.bind (aside_note _ rfl) fun _ =>
      aside_note _ rfl
  unfold simulate
  dsimp only
  -- the root reports the features first, and then all ranks go on alike
  split
  on_goal 1 => refine hosting_bind features fun _ => ?_
  all_goals
    refine hosting_bind (Act.asks_ofExcept _) fun flap => hosting_bind (Act.asks_ofExcept _) fun faces => ?_
    refine hosting_bind (Act.Asks.bind (Act.asks_ofExcept _) fun _ =>
      Act.Asks.bind (aside_note _ rfl) fun _ => Act.asks_pure _) fun surface => ?_
    refine hosting_bind_of aside_registered (fun _ _ _ _ run => isRegistered_of_registered run)
      fun session known => ?_
    refine hosting_bind (Act.asks_ofExcept _) fun run => hosting_bind (Act.asks_ofExcept _) fun fluid => ?_
    refine hosting_bind_pure fun s log result t loops => ?_
    obtain ⟨outcome, u, loops⟩ := runs_of_withState loops
    exact .of_core ⟨_, p, _, _, outcome, u, ⟨rfl, known, ⟨group, rfl⟩, ⟨channel, rfl⟩⟩, loops⟩

theorem hosting_couple (config : Config.Section) (p : Parameters) (registry : Discovery.Registry) :
    Hosting Looped (couple config p registry) := by
  refine hosting_bind (aside_asked rfl fun _ => aside_asked rfl fun _ => Act.asks_pure _) fun group => ?_
  refine hosting_bind (aside_settle _ _) fun peer => hosting_bind aside_setUp fun channel => ?_
  exact hosting_thenAlways (hosting_simulate _ _ _ _ _) (aside_freeUnlessStopped _)

theorem hosting_program (file : String) : Hosting Looped (program file) := by
  refine hosting_within (hosting_handle (hosting_bind_pure ?_) fun fault => ?_) _
  · refine hosting_bind (aside_readConfiguration file) fun config => ?_
    refine hosting_bind (aside_configureJournal config) fun _ => ?_
    refine hosting_bind ((Act.asks_ofExcept _).bind fun p => Act.Asks.bind (aside_note _ rfl) fun _ =>
      Act.asks_pure _) fun p => ?_
    refine hosting_bind (aside_build _) fun registry => ?_
    exact hosting_thenAlways (hosting_couple _ _ _) (aside_freeUnlessStopped _)
  · exact Act.Asks.bind (aside_note _ rfl) fun _ =>
      Act.Asks.bind (Act.asks_perform rfl) fun _ => Act.asks_pure _

end Fluid

end Programs

end FluidStructure
