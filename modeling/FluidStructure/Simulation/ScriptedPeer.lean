import FluidStructure.Channel.Status
import FluidStructure.KeyMap

/-!
# A scripted peer

A channel without a solver behind it: it answers receives from scripts, fails as it is
told to, and keeps a log of every call.  Each name has a queue of values per type; a
receive takes the first entry, and the last one stays for all later receives.
-/

namespace FluidStructure.Simulation

open FluidStructure.Channel

/-- The operations of a channel. -/
inductive Operation where
  | sendInts
  | sendReals
  | receiveInts
  | receiveReals
  | sendField
  | receiveField
  | close
deriving DecidableEq, Repr

namespace Operation

def all : List Operation :=
  [.sendInts, .sendReals, .receiveInts, .receiveReals, .sendField, .receiveField, .close]

def name : Operation → String
  | .sendInts => "send_ints"
  | .sendReals => "send_reals"
  | .receiveInts => "receive_ints"
  | .receiveReals => "receive_reals"
  | .sendField => "send_field"
  | .receiveField => "receive_field"
  | .close => "close"

end Operation

/-- One call of a channel.  Receives show no values, and integers are shown as reals. -/
structure Call where
  operation : Operation
  peer : Int32
  iteration : Int32
  name : String
  values : List Float := []

/-- Scripted answers, planned failures, and the log of calls. -/
structure ScriptedPeer where
  reals : KeyMap (List (List Float)) := []
  ints : KeyMap (List (List Int32)) := []
  fields : KeyMap (List (List Float)) := []
  /-- Calls on these names fail. -/
  failingNames : KeyMap Status := []
  /-- From this call on, counted from zero, every call fails. -/
  failFrom? : Option Nat := none
  failStatus : Status := Status.disconnected
  calls : List Call := []

namespace ScriptedPeer

/-! ## Scripts -/

/-- Appends an entry to the queue of a name. -/
def enqueue {α : Type} (queues : KeyMap (List α)) (name : String) (entry : α) :
    KeyMap (List α) :=
  queues.put name ((queues.get? name).getD [] ++ [entry])

def scriptReal (p : ScriptedPeer) (name : String) (value : Float) : ScriptedPeer :=
  { p with reals := enqueue p.reals name [value] }

def scriptInt (p : ScriptedPeer) (name : String) (value : Int32) : ScriptedPeer :=
  { p with ints := enqueue p.ints name [value] }

def scriptField (p : ScriptedPeer) (name : String) (values : List Float) : ScriptedPeer :=
  { p with fields := enqueue p.fields name values }

/-- Calls on a name fail with a status from now on. -/
def failOn (p : ScriptedPeer) (name : String) (status : Status) : ScriptedPeer :=
  { p with failingNames := p.failingNames.put name status }

/-- Calls from the `n`-th on fail with a status. -/
def failFromCall (p : ScriptedPeer) (n : Nat) (status : Status) : ScriptedPeer :=
  { p with failFrom? := some n, failStatus := status }

/-! ## The log -/

def record (p : ScriptedPeer) (call : Call) : ScriptedPeer :=
  { p with calls := p.calls ++ [call] }

/-- How many calls of an operation there were. -/
def count (p : ScriptedPeer) (operation : Operation) : Nat :=
  p.calls.countP fun c => c.operation = operation

/-- How many calls on a name there were. -/
def countName (p : ScriptedPeer) (name : String) : Nat := p.calls.countP fun c => c.name = name

/-- The last call on a name. -/
def last? (p : ScriptedPeer) (name : String) : Option Call :=
  p.calls.reverse.find? fun c => c.name = name

/-! ## Answers -/

/-- Status of the call that was recorded last, if it does not fail by plan: the count. -/
def outcome (p : ScriptedPeer) (name : String) (count : Status) : Status :=
  let late := match p.failFrom? with
    | some n => decide (n < p.calls.length)
    | none => false
  if late then p.failStatus else (p.failingNames.get? name).getD count

/-- Gives the first entry of a queue to a buffer that it fits. -/
def deliver {α : Type} (queues : KeyMap (List (List α))) (name : String) (buffer : List α)
    (exact : Bool) : Status × List α × KeyMap (List (List α)) :=
  match queues.get? name with
  | some (values :: later) =>
    if buffer.length < values.length ∨ (exact ∧ values.length ≠ buffer.length) then
      (Status.protocolError, buffer, queues)
    else
      let rest := if later.isEmpty then queues else queues.put name later
      (Int32.ofNat values.length, values ++ buffer.drop values.length, rest)
  | _ => (Status.protocolError, buffer, queues)

def sendInts (p : ScriptedPeer) (peer iteration : Int32) (name : String)
    (values : List Int32) : Status × ScriptedPeer :=
  let p := p.record ⟨.sendInts, peer, iteration, name, values.map Int32.toFloat⟩
  (p.outcome name (Int32.ofNat values.length), p)

def sendReals (p : ScriptedPeer) (peer iteration : Int32) (name : String)
    (values : List Float) : Status × ScriptedPeer :=
  let p := p.record ⟨.sendReals, peer, iteration, name, values⟩
  (p.outcome name (Int32.ofNat values.length), p)

def sendField (p : ScriptedPeer) (peer : Int32) (name : String) (values : List Float) :
    Status × ScriptedPeer :=
  let p := p.record ⟨.sendField, peer, 0, name, values⟩
  (p.outcome name (Int32.ofNat values.length), p)

def receiveInts (p : ScriptedPeer) (peer iteration : Int32) (name : String)
    (buffer : List Int32) : (Status × List Int32) × ScriptedPeer :=
  let p := p.record ⟨.receiveInts, peer, iteration, name, []⟩
  let status := p.outcome name Status.ok
  if Status.failed status then ((status, buffer), p)
  else
    let (status, values, ints) := deliver p.ints name buffer false
    ((status, values), { p with ints })

def receiveReals (p : ScriptedPeer) (peer iteration : Int32) (name : String)
    (buffer : List Float) : (Status × List Float) × ScriptedPeer :=
  let p := p.record ⟨.receiveReals, peer, iteration, name, []⟩
  let status := p.outcome name Status.ok
  if Status.failed status then ((status, buffer), p)
  else
    let (status, values, reals) := deliver p.reals name buffer false
    ((status, values), { p with reals })

def receiveField (p : ScriptedPeer) (peer : Int32) (name : String) (buffer : List Float) :
    (Status × List Float) × ScriptedPeer :=
  let p := p.record ⟨.receiveField, peer, 0, name, []⟩
  let status := p.outcome name Status.ok
  if Status.failed status then ((status, buffer), p)
  else
    let (status, values, fields) := deliver p.fields name buffer true
    ((status, values), { p with fields })

def close (p : ScriptedPeer) (peer : Int32) : ScriptedPeer :=
  p.record ⟨.close, peer, -1, "", []⟩

end ScriptedPeer

end FluidStructure.Simulation
