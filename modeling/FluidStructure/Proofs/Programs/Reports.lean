import FluidStructure.Programs.Structure
import FluidStructure.Proofs.Network.Fields
import FluidStructure.Proofs.Requests

/-!
# What the structure reports

The structure reports every step that it has committed, and at its end the time and the
displacement.  Nothing else that it does reports either.
-/

namespace FluidStructure.Programs.Structure

open FluidStructure.Channel FluidStructure.Coupling FluidStructure.Journal FluidStructure.Parallel

/-! ## Reports -/

/-- What the program reports of a step that it has committed. -/
structure Report where
  step : Int32
  time : Float
  motion : Motion

def report? : Parallel.Request → Option Report
  | .note (.structureStep step time x v) => some ⟨step, time, ⟨x, v⟩⟩
  | _ => none

/-- The reports of a run, in order. -/
def reports (log : Log Parallel) : List Report := log.filterMap fun made => report? made.request

/-- Time and displacement that the program reports at its end. -/
def final? : Parallel.Request → Option (Float × Float)
  | .note (.structureFinished time x) => some (time, x)
  | _ => none

def finals (log : Log Parallel) : List (Float × Float) := log.filterMap fun made => final? made.request

theorem reports_append (first second : Log Parallel) :
    reports (first ++ second) = reports first ++ reports second := List.filterMap_append

theorem finals_append (first second : Log Parallel) :
    finals (first ++ second) = finals first ++ finals second := List.filterMap_append

/-- A request that reports neither a step nor the end. -/
structure Reticent (request : Parallel.Request) : Prop where
  step : report? request = none
  final : final? request = none

section Logs

variable {log : Log Parallel}

theorem reports_of_reticent (h : ∀ made ∈ log, Reticent made.request) : reports log = [] :=
  List.filterMap_eq_nil_iff.2 fun made member => (h made member).step

theorem finals_eq_nil (h : ∀ made ∈ log, final? made.request = none) : finals log = [] :=
  List.filterMap_eq_nil_iff.2 h

end Logs

section Reticent

variable {σ α : Type} (peer iteration : Int32) (name : String)

theorem reticent_sendMessage (kind : Kind) (payload : Payload) :
    (MessageChannel.sendMessage peer iteration name kind payload).Asks Reticent := by
  unfold MessageChannel.sendMessage
  split
  · exact ⟨⟨rfl, rfl⟩, fun _ => trivial⟩
  refine ⟨⟨rfl, rfl⟩, fun sent => ?_⟩
  cases sent with
  | error code => exact ⟨⟨rfl, rfl⟩, fun _ => trivial⟩
  | ok _ =>
    dsimp only [Program.done_bind]
    split
    · refine ⟨⟨rfl, rfl⟩, fun sent => ?_⟩
      cases sent with
      | error code => exact ⟨⟨rfl, rfl⟩, fun _ => trivial⟩
      | ok _ => trivial
    · trivial

theorem reticent_receiveMessage (e : MessageChannel.Expected) (room : ReceiveBuffer) :
    (MessageChannel.receiveMessage peer e room).Asks Reticent := by
  rw [MessageChannel.receiveMessage_eq]
  refine ⟨⟨rfl, rfl⟩, fun reply => ?_⟩
  cases reply with
  | error code => exact ⟨⟨rfl, rfl⟩, fun _ => trivial⟩
  | ok header =>
    unfold MessageChannel.afterHeader
    dsimp only
    split
    · trivial
    split
    · split
      · refine ⟨⟨rfl, rfl⟩, fun payload => ?_⟩
        cases payload with
        | error code => exact ⟨⟨rfl, rfl⟩, fun _ => trivial⟩
        | ok payload => trivial
      · trivial
    · refine ⟨⟨rfl, rfl⟩, fun _ => ?_⟩
      split
      · exact ⟨⟨rfl, rfl⟩, fun _ => trivial⟩
      · trivial

theorem reticent_receiveInt (old : Int32) :
    (MessageChannel.receiveInt peer iteration name old).Asks Reticent :=
  Program.Asks.bind ((reticent_receiveMessage _ _ _).bind fun _ => trivial) fun _ => trivial

theorem reticent_receiveReal (old : Float) :
    (MessageChannel.receiveReal peer iteration name old).Asks Reticent :=
  Program.Asks.bind ((reticent_receiveMessage _ _ _).bind fun _ => trivial) fun _ => trivial

theorem reticent_sharing {status : Status} {c : MessageChannel}
    {on : Status → Program Parallel (Except Fault α × MessageChannel)}
    (later : ∀ shared, (on shared).Asks Reticent) :
    (MessageChannel.sharing status c on).Asks Reticent := by
  refine ⟨⟨rfl, rfl⟩, fun reply => ?_⟩
  cases reply with
  | error code => trivial
  | ok shared => exact later _

theorem reticent_onRoot {c : MessageChannel} {exchange : Program Parallel (Status × MessageChannel)}
    (asks : exchange.Asks Reticent) : (c.onRoot exchange).Asks Reticent := by
  unfold MessageChannel.onRoot
  split
  · exact asks
  · trivial

theorem reticent_sendField (values : List Float) :
    (MessageChannel.sendField peer name values).Asks Reticent := by
  intro c
  rw [MessageChannel.sendField_apply]
  refine ⟨⟨rfl, rfl⟩, fun reply => ?_⟩
  cases reply with
  | error code => trivial
  | ok counts =>
    refine ⟨⟨rfl, rfl⟩, fun reply => ?_⟩
    cases reply with
    | error code => trivial
    | ok gathered =>
      refine Program.Asks.bind ?_ fun _ => reticent_sharing fun _ => trivial
      exact reticent_onRoot ((reticent_sendMessage _ _ _ _ _).bind fun _ => trivial)

theorem reticent_receiveField (values : List Float) :
    (MessageChannel.receiveField peer name values).Asks Reticent := by
  intro c
  rw [MessageChannel.receiveField_apply]
  refine ⟨⟨rfl, rfl⟩, fun reply => ?_⟩
  cases reply with
  | error code => trivial
  | ok counts =>
    refine Program.Asks.bind ?_ fun (status, d) => reticent_sharing fun shared => ?_
    · exact reticent_onRoot ((reticent_receiveMessage _ _ _).bind fun _ => trivial)
    · unfold MessageChannel.handOut
      split
      · trivial
      · refine ⟨⟨rfl, rfl⟩, fun part => ?_⟩
        cases part <;> trivial

/-- Goes on with a value that was received, if the receive succeeded. -/
def onward {β : Type} (got : Program Parallel (Status × α)) (f : α → Program Parallel (Option β)) :
    Program Parallel (Option β) :=
  got.bind fun (status, value) => if Status.failed status then .done none else f value

theorem reticent_onward {β : Type} {got : Program Parallel (Status × α)}
    {f : α → Program Parallel (Option β)} (first : got.Asks Reticent)
    (later : ∀ value, (f value).Asks Reticent) : (onward got f).Asks Reticent := by
  refine first.bind fun (status, value) => ?_
  show (if _ then _ else f value).Asks Reticent
  split
  · trivial
  · exact later value

theorem receiveParameters_eq :
    receiveParameters peer =
      onward (MessageChannel.receiveInt peer 0 Variable.maxTimeSteps 0) fun maxTimeSteps =>
      onward (MessageChannel.receiveInt peer 0 Variable.maxSubIterations 0) fun maxSubIterations =>
      onward (MessageChannel.receiveReal peer 0 Variable.tolerance 0.0) fun tolerance =>
      onward (MessageChannel.receiveReal peer 0 Variable.initialTime 0.0) fun initialTime =>
      onward (MessageChannel.receiveReal peer 0 Variable.referenceTimeStep 0.0) fun referenceStep =>
        .done (some ⟨maxTimeSteps, maxSubIterations, tolerance, initialTime, referenceStep⟩) :=
  rfl

theorem reticent_receiveParameters : (receiveParameters peer).Asks Reticent := by
  rw [receiveParameters_eq]
  refine reticent_onward (reticent_receiveInt ..) fun _ => reticent_onward (reticent_receiveInt ..) fun _ => ?_
  refine reticent_onward (reticent_receiveReal ..) fun _ => ?_
  refine reticent_onward (reticent_receiveReal ..) fun _ => ?_
  exact reticent_onward (reticent_receiveReal ..) fun _ => trivial

variable (l : Layout) (step : Int32)

theorem reticent_negotiate : (negotiate l step).Asks Reticent := by
  unfold negotiate
  refine (reticent_sendMessage _ _ _ _ _).bind fun _ => ?_
  dsimp only
  split
  · trivial
  · exact (reticent_receiveReal _ _ _ _).bind fun _ => trivial

theorem reticent_answerMotion (m : Motion) : (answerMotion l step m).Asks Reticent := by
  refine (reticent_sendField _ _ _).bind fun sent => ?_
  split
  · exact Act.asks_pure _
  refine (reticent_sendField _ _ _).bind fun sent => ?_
  split
  · exact Act.asks_pure _
  · exact Act.Asks.bind (Act.asks_lift (reticent_receiveInt _ _ _ _)) fun _ => Act.asks_pure _

theorem reticent_subIterate (o : Oscillator) (dt : Float) (n : Nat) (m : Motion) (forces : List Float) :
    (subIterate l o step dt n m forces).Asks Reticent := by
  induction n generalizing m forces with
  | zero => exact Act.asks_pure _
  | succ n ih =>
    refine (reticent_receiveField _ _ _).bind fun received => ?_
    dsimp only
    split
    · exact Act.asks_pure _
    refine (reticent_answerMotion l step _).bind fun answered => ?_
    cases answered with
    | again => exact ih _ _
    | converged => exact Act.asks_pure _
    | lost => exact Act.asks_pure _

theorem reticent_awaitEnding (p : RunParameters) : (awaitEnding l p).Asks Reticent := by
  refine Act.Asks.bind (Act.asks_lift (reticent_receiveInt _ _ _ _)) fun received => ?_
  obtain ⟨status, _⟩ := received
  show (if _ then _ else _ : Act Parallel MessageChannel Unit).Asks Reticent
  split
  · exact Act.asks_perform ⟨rfl, rfl⟩
  · exact Act.asks_pure _

end Reticent

end FluidStructure.Programs.Structure
