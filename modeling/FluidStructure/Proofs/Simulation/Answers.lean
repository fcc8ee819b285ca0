import FluidStructure.Proofs.Simulation.Queues
import FluidStructure.Proofs.Simulation.Scripts

/-!
# Answers of a scripted peer

A scripted peer logs every call.  A receive that does not fail by plan gets the next entry for its name and
its type of values, if the entry fits the buffer; after the last entry all get the last one.  Only receives
that get an entry use one up, so what a receive gets depends on the earlier receives of its type on its
name alone, whatever was called in between.
-/

namespace FluidStructure.Simulation

open FluidStructure.Channel

/-! ## Calls -/

namespace Flavour

/-- A field has to have the size of the buffer. -/
def exact : Flavour → Bool
  | .field => true
  | .ints | .reals => false

def sending : Flavour → Operation
  | .ints => .sendInts
  | .reals => .sendReals
  | .field => .sendField

def receiving : Flavour → Operation
  | .ints => .receiveInts
  | .reals => .receiveReals
  | .field => .receiveField

/-- The iteration that the log shows; fields have none. -/
def keyed : Flavour → Int32 → Int32
  | .field, _ => 0
  | .ints, iteration | .reals, iteration => iteration

/-- The values that the log shows. -/
def shown : (flavour : Flavour) → List flavour.Value → List Float
  | .ints, values => values.map Int32.toFloat
  | .reals, values | .field, values => values

end Flavour

/-- A call with what it is given.  Fields have no iteration; the one given is not used. -/
inductive Ask where
  | send (flavour : Flavour) (peer iteration : Int32) (name : String) (values : List flavour.Value)
  | receive (flavour : Flavour) (peer iteration : Int32) (name : String)
      (buffer : List flavour.Value)
  | close (peer : Int32)

namespace Ask

/-- What the log shows of a call. -/
def call : Ask → Call
  | .send flavour peer iteration name values =>
    ⟨flavour.sending, peer, flavour.keyed iteration, name, flavour.shown values⟩
  | .receive flavour peer iteration name _ =>
    ⟨flavour.receiving, peer, flavour.keyed iteration, name, []⟩
  | .close peer => ⟨.close, peer, -1, "", []⟩

/-- The buffer of a receive of some type on some name. -/
def buffer? (name : String) : (flavour : Flavour) → Ask → Option (List flavour.Value)
  | .ints, .receive .ints _ _ other buffer => if other = name then some buffer else none
  | .reals, .receive .reals _ _ other buffer => if other = name then some buffer else none
  | .field, .receive .field _ _ other buffer => if other = name then some buffer else none
  | _, _ => none

variable {flavour other : Flavour} {peer iteration : Int32} {name : String}

theorem buffer?_receive (wanted : String) (buffer : List flavour.Value) :
    (receive flavour peer iteration name buffer).buffer? wanted flavour =
      if name = wanted then some buffer else none := by
  cases flavour <;> rfl

theorem buffer?_receive_apart {wanted : String} (apart : ¬ (other = flavour ∧ name = wanted))
    (buffer : List other.Value) :
    (receive other peer iteration name buffer).buffer? wanted flavour = none := by
  by_cases same : other = flavour
  · subst same
    rw [buffer?_receive, if_neg fun named => apart ⟨rfl, named⟩]
  · cases other <;> cases flavour <;> first | rfl | exact absurd rfl same

end Ask

namespace Script

/-- The buffer of the `i`-th call, if this is a receive of the type on the name and does not fail by plan. -/
def heard? (script : List Cue) (flavour : Flavour) (name : String) (i : Nat) (ask : Ask) :
    Option (List flavour.Value) :=
  if fails script i name then none else ask.buffer? name flavour

/-- The buffers of all receives of a type on a name that do not fail by plan. -/
def heard (script : List Cue) (asks : List Ask) (flavour : Flavour) (name : String) :
    List (List flavour.Value) :=
  asks.zipIdx.filterMap fun (ask, i) => heard? script flavour name i ask

/-- How many entries for a name have been given away. -/
def used (script : List Cue) (asks : List Ask) (flavour : Flavour) (name : String) : Nat :=
  served flavour.exact (entries script flavour name) (heard script asks flavour name)

variable (script : List Cue) (asks : List Ask) (ask : Ask) (flavour : Flavour) (name : String)

theorem heard_concat :
    heard script (asks ++ [ask]) flavour name =
      heard script asks flavour name ++ (heard? script flavour name asks.length ask).toList := by
  unfold heard
  rw [List.zipIdx_append, List.filterMap_append, Nat.zero_add, List.zipIdx_singleton, List.filterMap_cons,
    List.filterMap_nil]
  dsimp only
  cases heard? script flavour name asks.length ask <;> rfl

theorem used_concat :
    used script (asks ++ [ask]) flavour name =
      match heard? script flavour name asks.length ask with
      | some buffer =>
        if gets flavour.exact (entries script flavour name) (used script asks flavour name) buffer
          then used script asks flavour name + 1 else used script asks flavour name
      | none => used script asks flavour name := by
  unfold used served
  rw [heard_concat, List.foldl_append]
  cases heard? script flavour name asks.length ask <;> rfl

end Script

namespace ScriptedPeer

/-- Puts queues for a type in place of those that there are. -/
def withQueues (p : ScriptedPeer) :
    (flavour : Flavour) → KeyMap (List (List flavour.Value)) → ScriptedPeer
  | .ints, ints => { p with ints }
  | .reals, reals => { p with reals }
  | .field, fields => { p with fields }

def send (p : ScriptedPeer) : (flavour : Flavour) → (peer iteration : Int32) → (name : String) →
    (values : List flavour.Value) → Status × ScriptedPeer
  | .ints, peer, iteration, name, values => p.sendInts peer iteration name values
  | .reals, peer, iteration, name, values => p.sendReals peer iteration name values
  | .field, peer, _, name, values => p.sendField peer name values

def receive (p : ScriptedPeer) : (flavour : Flavour) → (peer iteration : Int32) → (name : String) →
    (buffer : List flavour.Value) → (Status × List flavour.Value) × ScriptedPeer
  | .ints, peer, iteration, name, buffer => p.receiveInts peer iteration name buffer
  | .reals, peer, iteration, name, buffer => p.receiveReals peer iteration name buffer
  | .field, peer, _, name, buffer => p.receiveField peer name buffer

/-- The peer after a call. -/
def next (p : ScriptedPeer) : Ask → ScriptedPeer
  | .send flavour peer iteration name values => (p.send flavour peer iteration name values).2
  | .receive flavour peer iteration name buffer => (p.receive flavour peer iteration name buffer).2
  | .close peer => p.close peer

def after (p : ScriptedPeer) (asks : List Ask) : ScriptedPeer := asks.foldl next p

theorem after_concat (p : ScriptedPeer) (asks : List Ask) (ask : Ask) :
    p.after (asks ++ [ask]) = (p.after asks).next ask :=
  List.foldl_append

/-! ## One call -/

section Call

variable (p : ScriptedPeer) (flavour : Flavour) (peer iteration : Int32) (name : String)

theorem queue_record (call : Call) : (p.record call).queue flavour name = p.queue flavour name := by
  cases flavour <;> rfl

theorem queue_withQueues (queues : KeyMap (List (List flavour.Value))) :
    (p.withQueues flavour queues).queue flavour name = (queues.get? name).getD [] := by
  cases flavour <;> rfl

theorem queue_withQueues_other {other : Flavour} (apart : other ≠ flavour)
    (queues : KeyMap (List (List other.Value))) :
    (p.withQueues other queues).queue flavour name = p.queue flavour name := by
  cases other <;> cases flavour <;> first | rfl | exact absurd rfl apart

theorem withQueues_record (call : Call) :
    (p.record call).withQueues flavour (p.queues flavour) = p.record call := by
  cases flavour <;> rfl

theorem calls_withQueues (queues : KeyMap (List (List flavour.Value))) :
    (p.withQueues flavour queues).calls = p.calls := by
  cases flavour <;> rfl

theorem planned?_withQueues (queues : KeyMap (List (List flavour.Value))) :
    (p.withQueues flavour queues).planned? = p.planned? := by
  cases flavour <;> rfl

theorem send_eq (values : List flavour.Value) :
    p.send flavour peer iteration name values =
      ((p.planned? p.calls.length name).getD (Int32.ofNat values.length),
        p.record (Ask.send flavour peer iteration name values).call) := by
  cases flavour <;> exact Prod.ext (outcome_record ..) rfl

/-- A failure by plan comes before the queue is looked at. -/
theorem receive_eq (buffer : List flavour.Value) :
    p.receive flavour peer iteration name buffer =
      let p' := p.record (Ask.receive flavour peer iteration name buffer).call
      let status := (p.planned? p.calls.length name).getD Status.ok
      if Status.failed status then ((status, buffer), p')
      else
        let (status, values, queues) := deliver (p.queues flavour) name buffer flavour.exact
        ((status, values), p'.withQueues flavour queues) := by
  rw [← outcome_record p (Ask.receive flavour peer iteration name buffer).call name Status.ok]
  cases flavour <;> rfl

/-- Does the next call, on this name, fail by plan? -/
def fails : Bool := (p.planned? p.calls.length name).any Status.failed

variable {p flavour peer iteration name}

theorem receive_planned {status : Status} (planned : p.planned? p.calls.length name = some status)
    (failed : status.failed) (buffer : List flavour.Value) :
    p.receive flavour peer iteration name buffer =
      ((status, buffer), p.record (Ask.receive flavour peer iteration name buffer).call) := by
  rw [receive_eq, planned]
  exact if_pos failed

theorem receive_of_fine (fine : p.fails name = false) (buffer : List flavour.Value) :
    p.receive flavour peer iteration name buffer =
      let (status, values, queues) := deliver (p.queues flavour) name buffer flavour.exact
      ((status, values),
        (p.record (Ask.receive flavour peer iteration name buffer).call).withQueues flavour queues) := by
  have sound : Status.failed ((p.planned? p.calls.length name).getD Status.ok) = false := by
    unfold fails at fine
    cases h : p.planned? p.calls.length name with
    | none => rfl
    | some status => rwa [h] at fine
  rw [receive_eq]
  exact if_neg (Bool.eq_false_iff.1 sound)

variable {entries : List (List flavour.Value)} {k : Nat}

/-- The next entry goes into a buffer that it fits, and is used up. -/
theorem receive_gets (fine : p.fails name = false) (waiting : p.queue flavour name = leftAfter entries k)
    {entry buffer : List flavour.Value} (next : entryAfter? entries k = some entry)
    (fits : Fits flavour.exact entry buffer) :
    (p.receive flavour peer iteration name buffer).1 =
        (Int32.ofNat entry.length, entry ++ buffer.drop entry.length) ∧
      (p.receive flavour peer iteration name buffer).2.queue flavour name = leftAfter entries (k + 1) := by
  rw [← head?_leftAfter] at next
  obtain ⟨later, left⟩ := List.head?_eq_some_iff.1 next
  obtain ⟨rest, delivered, remaining⟩ := deliver_fits (waiting.trans left) fits
  rw [receive_of_fine fine, delivered]
  refine ⟨rfl, ?_⟩
  rw [queue_withQueues, remaining, leftAfter_succ left]

/-- Without an entry that fits nothing is written and nothing used up. -/
theorem receive_refused (fine : p.fails name = false) (waiting : p.queue flavour name = leftAfter entries k)
    {buffer : List flavour.Value}
    (refused : ∀ entry, entryAfter? entries k = some entry → ¬ Fits flavour.exact entry buffer) :
    p.receive flavour peer iteration name buffer =
      ((Status.protocolError, buffer),
        p.record (Ask.receive flavour peer iteration name buffer).call) := by
  rw [← head?_leftAfter, ← waiting] at refused
  rw [receive_of_fine fine, deliver_refused refused]
  dsimp only
  rw [withQueues_record]

/-- Plan and queue say what a receive gets. -/
theorem reply_congr {q : ScriptedPeer}
    (plan : q.planned? q.calls.length name = p.planned? p.calls.length name)
    (waiting : q.queue flavour name = p.queue flavour name) (buffer : List flavour.Value) :
    (q.receive flavour peer iteration name buffer).1 = (p.receive flavour peer iteration name buffer).1 := by
  have fails : q.fails name = p.fails name := congrArg (Option.any Status.failed) plan
  have left := (leftAfter_zero (p.queue flavour name)).symm
  cases failing : p.fails name with
  | true =>
    obtain ⟨status, planned, failed⟩ := (Option.any_eq_true _ _).1 failing
    rw [receive_planned planned failed, receive_planned (plan.trans planned) failed]
  | false =>
    cases got : gets flavour.exact (p.queue flavour name) 0 buffer with
    | true =>
      obtain ⟨entry, next, fits⟩ := (Option.any_eq_true _ _).1 got
      have fits := of_decide_eq_true fits
      rw [(receive_gets failing left next fits).1,
        (receive_gets (fails.trans failing) (waiting.trans left) next fits).1]
    | false =>
      have refused entry (next : entryAfter? (p.queue flavour name) 0 = some entry) :
          ¬ Fits flavour.exact entry buffer :=
        of_decide_eq_false ((Option.any_eq_false _ _).1 got entry next)
      rw [receive_refused failing left refused,
        receive_refused (fails.trans failing) (waiting.trans left) refused]

theorem queue_receive_apart {other : Flavour} {wanted : String}
    (apart : ¬ (flavour = other ∧ name = wanted)) (buffer : List flavour.Value) :
    (p.receive flavour peer iteration name buffer).2.queue other wanted = p.queue other wanted := by
  rw [receive_eq]
  dsimp only
  split
  · exact queue_record ..
  · by_cases same : flavour = other
    · subst same
      rw [queue_withQueues, get?_deliver_other fun named => apart ⟨rfl, named⟩]
      rfl
    · rw [queue_withQueues_other _ _ _ same, queue_record]

end Call

/-! ## Calls in turn -/

theorem calls_next (p : ScriptedPeer) (ask : Ask) : (p.next ask).calls = p.calls ++ [ask.call] := by
  cases ask with
  | send => exact congrArg (calls ∘ Prod.snd) (send_eq ..)
  | receive flavour peer iteration name buffer =>
    show (p.receive flavour peer iteration name buffer).2.calls = _
    rw [receive_eq]
    dsimp only
    split
    · rfl
    · exact calls_withQueues ..
  | close => rfl

theorem planned?_next (p : ScriptedPeer) (ask : Ask) : (p.next ask).planned? = p.planned? := by
  cases ask with
  | send => exact congrArg (planned? ∘ Prod.snd) (send_eq ..)
  | receive flavour peer iteration name buffer =>
    show (p.receive flavour peer iteration name buffer).2.planned? = _
    rw [receive_eq]
    dsimp only
    split
    · rfl
    · exact planned?_withQueues ..
  | close => rfl

/-- A call uses an entry of a queue if it is a receive that gets it, and leaves all other queues alone. -/
theorem queue_next {p : ScriptedPeer} {flavour : Flavour} {name : String}
    {entries : List (List flavour.Value)} {k : Nat}
    (waiting : p.queue flavour name = leftAfter entries k) (ask : Ask) :
    (p.next ask).queue flavour name = leftAfter entries
      (match if p.fails name then none else ask.buffer? name flavour with
        | some buffer => if gets flavour.exact entries k buffer then k + 1 else k
        | none => k) := by
  cases ask with
  | send other peer iteration wanted values =>
    have same : (if p.fails name then none else
        (Ask.send other peer iteration wanted values).buffer? name flavour) = none := by
      cases flavour <;> exact ite_self _
    rw [same, ← waiting]
    exact (congrArg (fun made => made.2.queue flavour name) (send_eq ..)).trans (queue_record ..)
  | close peer =>
    have same : (if p.fails name then none else (Ask.close peer).buffer? name flavour) = none := by
      cases flavour <;> exact ite_self _
    rw [same, ← waiting]
    exact queue_record ..
  | receive other peer iteration wanted buffer =>
    show (p.receive other peer iteration wanted buffer).2.queue flavour name = _
    by_cases here : other = flavour ∧ wanted = name
    · obtain ⟨rfl, rfl⟩ := here
      rw [Ask.buffer?_receive, if_pos rfl]
      cases failing : p.fails wanted with
      | true =>
        obtain ⟨status, planned, failed⟩ := (Option.any_eq_true _ _).1 failing
        rw [receive_planned planned failed, queue_record, waiting]
        rfl
      | false =>
        cases got : gets other.exact entries k buffer with
        | true =>
          obtain ⟨entry, next, fits⟩ := (Option.any_eq_true _ _).1 got
          rw [(receive_gets failing waiting next (of_decide_eq_true fits)).2]
          exact congrArg _ (if_pos got).symm
        | false =>
          have refused := (Option.any_eq_false _ _).1 got
          rw [receive_refused failing waiting fun entry next => of_decide_eq_false (refused entry next),
            queue_record, waiting]
          exact congrArg _ (if_neg (Bool.eq_false_iff.1 got)).symm
    · rw [Ask.buffer?_receive_apart here, ite_self, queue_receive_apart here, waiting]

/-- The peer that has been asked so far: its log shows all calls, its plan is that of the script, and its
queues are those of the script without the entries that were given away. -/
theorem after_ofScript (script : List Cue) (asks : List Ask) :
    ((ofScript script).after asks).calls = asks.map Ask.call ∧
    (∀ i name, ((ofScript script).after asks).planned? i name = Script.planned? script i name) ∧
    ∀ flavour name, ((ofScript script).after asks).queue flavour name =
      leftAfter (Script.entries script flavour name) (Script.used script asks flavour name) := by
  induction asks using List.reverseRecOn with
  | nil =>
    refine ⟨calls_ofScript script, planned?_ofScript script, fun flavour name => ?_⟩
    exact (queue_ofScript script flavour name).trans (leftAfter_zero _).symm
  | append_singleton asks ask ih =>
    obtain ⟨logged, planned, waiting⟩ := ih
    rw [after_concat]
    refine ⟨?_, fun i name => ?_, fun flavour name => ?_⟩
    · rw [calls_next, logged, List.map_append, List.map_singleton]
    · rw [planned?_next, planned]
    · have failing : ((ofScript script).after asks).fails name =
          Script.fails script asks.length name := by
        unfold fails Script.fails
        rw [logged, planned, List.length_map]
      rw [queue_next (waiting flavour name), failing, Script.used_concat]
      rfl

/-- Whatever script was loaded and whatever was called since, the log shows the calls in their order, and
a call that is to fail gives the planned status and changes nothing but the log.  Any other receive gets
the entry of its name and type that follows those given away before, the last one if there are no more; it
fails without a trace, the log apart, if there is no entry or the entry does not fit.  What it gets does
not depend on calls on other names or of other types. -/
theorem answers_scripted (script : List Cue) (before : List Ask) :
    let p := (ofScript script).after before
    p.calls = before.map Ask.call ∧
    (∀ flavour peer iteration name values,
      p.send flavour peer iteration name values =
        ((Script.planned? script before.length name).getD (Int32.ofNat values.length),
          p.record (Ask.send flavour peer iteration name values).call)) ∧
    ∀ flavour peer iteration name buffer,
      (∀ status, Script.planned? script before.length name = some status → status.failed →
        p.receive flavour peer iteration name buffer =
          ((status, buffer), p.record (Ask.receive flavour peer iteration name buffer).call)) ∧
      (Script.fails script before.length name = false →
        (∀ entry, entryAfter? (Script.entries script flavour name)
              (Script.used script before flavour name) = some entry →
            Fits flavour.exact entry buffer →
          (p.receive flavour peer iteration name buffer).1 =
            (Int32.ofNat entry.length, entry ++ buffer.drop entry.length)) ∧
        ((∀ entry, entryAfter? (Script.entries script flavour name)
              (Script.used script before flavour name) = some entry →
            ¬ Fits flavour.exact entry buffer) →
          p.receive flavour peer iteration name buffer =
            ((Status.protocolError, buffer),
              p.record (Ask.receive flavour peer iteration name buffer).call))) ∧
      ∀ others, Script.heard script others flavour name = Script.heard script before flavour name →
        Script.planned? script others.length name = Script.planned? script before.length name →
        (((ofScript script).after others).receive flavour peer iteration name buffer).1 =
          (p.receive flavour peer iteration name buffer).1 := by
  intro p
  obtain ⟨logged, plan, waiting⟩ := after_ofScript script before
  have count : p.calls.length = before.length := by rw [logged, List.length_map]
  have planned name : p.planned? p.calls.length name = Script.planned? script before.length name := by
    rw [count, plan]
  have fails name : p.fails name = Script.fails script before.length name :=
    congrArg (Option.any Status.failed) (planned name)
  refine ⟨logged, fun flavour peer iteration name values => ?_,
    fun flavour peer iteration name buffer => ⟨fun status fixed failed => ?_, fun fine => ⟨?_, ?_⟩, ?_⟩⟩
  · rw [send_eq, planned]
  · exact receive_planned ((planned name).trans fixed) failed buffer
  · intro entry next fits
    exact (receive_gets ((fails name).trans fine) (waiting flavour name) next fits).1
  · intro refused
    exact receive_refused ((fails name).trans fine) (waiting flavour name) refused
  · intro others same fixed
    obtain ⟨logged', plan', waiting'⟩ := after_ofScript script others
    refine reply_congr ?_ ?_ buffer
    · rw [planned, ← fixed, logged', List.length_map, plan']
    · rw [waiting', waiting flavour name]
      unfold Script.used
      rw [same]

namespace Rehearsed

def script : List Cue :=
  [.int "ICVAST" 0, .field "mesh_displacement" [0.5, 0, 0], .int "ICVAST" 1, .failOn "DTAST" (-3),
    .failFrom 6 (-1)]

/-- The flag is asked for four times.  The second time there is no room for it. -/
def before : List Ask :=
  [.receive .ints 1 1 "ICVAST" [9], .receive .ints 1 1 "ICVAST" [], .receive .reals 1 1 "ICVAST" [0.25],
    .receive .ints 1 1 "ICVAST" [9], .receive .ints 1 2 "ICVAST" [9]]

/-- The last of two entries is there for the third receive and all later ones, a planned failure comes
first, and a field must have the right size. -/
theorem answers_scripted_rehearsed :
    let p := (ofScript script).after before
    (p.receive .ints 1 2 "ICVAST" [8, 9]).1 = (1, [1, 9]) ∧
    (p.receive .reals 1 2 "DTAST" [0.25]).1 = (-3, [0.25]) ∧
    (p.receive .field 1 0 "mesh_displacement" [0.25]).1 = (Status.protocolError, [0.25]) ∧
    ((p.next (.close 1)).receive .ints 1 2 "ICVAST" [9]).1 = (-1, [9]) := by
  obtain ⟨-, -, receives⟩ := answers_scripted script before
  obtain ⟨-, -, closed⟩ := answers_scripted script (before ++ [.close 1])
  rw [after_concat] at closed
  obtain ⟨-, flag, -⟩ := receives .ints 1 2 "ICVAST" [8, 9]
  obtain ⟨step, -, -⟩ := receives .reals 1 2 "DTAST" [0.25]
  obtain ⟨-, field, -⟩ := receives .field 1 0 "mesh_displacement" [0.25]
  obtain ⟨late, -, -⟩ := closed .ints 1 2 "ICVAST" [9]
  refine ⟨(flag (by decide)).1 [1] (by decide) (by decide), ?_, ?_, ?_⟩
  · rw [step (-3) (by decide) (by decide)]
  · rw [(field (by decide)).2 fun entry next fits => ?_]
    obtain rfl := Option.some.inj next
    exact absurd fits (by decide)
  · rw [late (-1) (by decide) (by decide)]

end Rehearsed

end ScriptedPeer

end FluidStructure.Simulation
