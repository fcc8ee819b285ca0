import FluidStructure.Channel.MessageChannel
import FluidStructure.Coupling.FluidSolver
import FluidStructure.Coupling.Surroundings
import FluidStructure.Simulation.PartitionedGroup
import FluidStructure.Simulation.ScriptedPeer

/-!
# The setting of a coupled run

A setting answers what a coupled run asks for: it has a local group, a channel to the
peer, and a fluid solver.  Group and channel are those of a process of a parallel run, or
simulated ones.
-/

namespace FluidStructure.Coupling

open FluidStructure.Channel FluidStructure.Parallel FluidStructure.Simulation

/-- Local groups. -/
inductive LocalGroup where
  | process (g : Group)
  | partitioned (g : PartitionedGroup)

/-- The place of this rank in its group. -/
def LocalGroup.place : LocalGroup → Place
  | process g => g.place
  | partitioned g => ⟨0, g.size⟩

/-- Channels to the peer. -/
inductive PeerChannel where
  | messages (c : MessageChannel)
  | scripted (p : ScriptedPeer)

/-- Surroundings of a coupled run. -/
structure Setting (φ : Type) where
  group : LocalGroup
  channel : PeerChannel
  fluid : φ

namespace Setting

variable {φ α : Type}

/-- A process operation without a state of its own. -/
def outcome (act : Act Parallel Unit α) : Program Parallel (Except Fault α) :=
  (act ()).bind fun (result, _) => .done result

/-- Uses the local group: a process operation, or the simulated group. -/
def useGroup (s : Setting φ) (process : Group → Act Parallel Unit α)
    (simulated : PartitionedGroup → α × PartitionedGroup) :
    Program Parallel (Except Fault α × Setting φ) :=
  match s.group with
  | .process g => (outcome (process g)).bind fun result => .done (result, s)
  | .partitioned g =>
    let (value, g) := simulated g
    .done (.ok value, { s with group := .partitioned g })

/-- Uses the channel for a control value. -/
def useControl (s : Setting φ) (messages : Program Parallel α)
    (simulated : ScriptedPeer → α × ScriptedPeer) : Program Parallel (α × Setting φ) :=
  match s.channel with
  | .messages _ => messages.bind fun value => .done (value, s)
  | .scripted p =>
    let (value, p) := simulated p
    .done (value, { s with channel := .scripted p })

/-- Uses the channel for a field. -/
def useField (s : Setting φ) (messages : Act Parallel MessageChannel α)
    (simulated : ScriptedPeer → α × ScriptedPeer) :
    Program Parallel (Except Fault α × Setting φ) :=
  match s.channel with
  | .messages c =>
    (messages c).bind fun (result, c) => .done (result, { s with channel := .messages c })
  | .scripted p =>
    let (value, p) := simulated p
    .done (.ok value, { s with channel := .scripted p })

/-- Tells the peer that no message will follow. -/
def closeChannel (s : Setting φ) (peer : Int32) : Program Parallel (Unit × Setting φ) :=
  match s.channel with
  | .messages c => (c.close peer).bind fun () => .done ((), s)
  | .scripted p => .done ((), { s with channel := .scripted (p.close peer) })

/-- Uses the fluid solver. -/
def useFluid (s : Setting φ) (operation : φ → α × φ) : Program Parallel (α × Setting φ) :=
  let (value, fluid) := operation s.fluid
  .done (value, { s with fluid })

/-- Answers a request. -/
def answer [FluidSolver φ] :
    (request : Coupling.Request) → Setting φ → Program Parallel (request.Reply × Setting φ)
  | .sumReals values, s =>
    s.useGroup (fun g => g.reduceReals .sum values) (fun g => g.sumReals values)
  | .sumCounts values, s => s.useGroup (fun g => g.sumCounts values) (fun g => g.sumCounts values)
  | .broadcastReals buffer, s =>
    s.useGroup (fun g => g.broadcastReals 0 buffer) (fun g => (buffer, g.broadcast))
  | .broadcastInts buffer, s =>
    s.useGroup (fun g => g.broadcastInts 0 buffer) (fun g => (buffer, g.broadcast))
  | .sendInts peer iteration name values, s =>
    s.useControl (MessageChannel.sendInts peer iteration name values)
      (fun p => p.sendInts peer iteration name values)
  | .sendReals peer iteration name values, s =>
    s.useControl (MessageChannel.sendReals peer iteration name values)
      (fun p => p.sendReals peer iteration name values)
  | .receiveInts peer iteration name buffer, s =>
    s.useControl (MessageChannel.receiveInts peer iteration name buffer)
      (fun p => p.receiveInts peer iteration name buffer)
  | .receiveReals peer iteration name buffer, s =>
    s.useControl (MessageChannel.receiveReals peer iteration name buffer)
      (fun p => p.receiveReals peer iteration name buffer)
  | .sendField peer name values, s =>
    s.useField (MessageChannel.sendField peer name values)
      (fun p => p.sendField peer name values)
  | .receiveField peer name buffer, s =>
    s.useField (MessageChannel.receiveField peer name buffer)
      (fun p => p.receiveField peer name buffer)
  | .close peer, s => s.closeChannel peer
  | .computeForces session run buffer, s =>
    s.useFluid (FluidSolver.computeForces session run buffer)
  | .imposeDisplacement session displacement, s =>
    s.useFluid (FluidSolver.imposeDisplacement session displacement)
  | .peerConvergence session converged, s =>
    s.useFluid (FluidSolver.peerConvergence session converged)
  | .note notice, s => (ask (.note notice)).bind fun () => .done ((), s)

/-- An act of a coupled run as an act of a process: the setting becomes part of the state. -/
def embed [FluidSolver φ] {σ : Type} (act : Act Coupling σ α) :
    Act Parallel (σ × Setting φ) α := fun (s, setting) =>
  ((act s).via answer setting).bind fun ((result, s), setting) => .done (result, (s, setting))

end Setting

end FluidStructure.Coupling
