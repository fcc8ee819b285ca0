import FluidStructure.KeyMap
import FluidStructure.Overwrite
import FluidStructure.Parallel.Group

/-!
# A scripted process

One process of a parallel run whose surroundings are a script: places in the
communicators, messages that wait, the contributions of the other ranks, and calls that
fail.  What the process does is kept as a list of events.
-/

namespace FluidStructure.Simulation

open FluidStructure.Channel FluidStructure.Journal FluidStructure.Parallel

/-- A planned failure: the `nth` call of a routine, or all from there on. -/
structure PlannedFailure where
  routine : String
  nth : Nat
  code : Code
  onward : Bool := false
deriving DecidableEq, Repr

/-- Does the failure hit the `n`-th call of a routine? -/
def PlannedFailure.hits (f : PlannedFailure) (routine : String) (n : Nat) : Bool :=
  f.routine = routine && (f.nth = n || (f.onward && f.nth ≤ n))

/-- What waits to be received. -/
inductive Message where
  | header (h : Header)
  | payload (p : Payload)

/-- A message and the rank that it came from. -/
structure Envelope where
  source : Int32
  message : Message

/-- What a process did. -/
inductive Event where
  | header (dest : Int32) (h : Header)
  | data (dest : Int32) (p : Payload)
  | scatter (rank : Nat) (values : List Float)
  | gather (values : List Float)
  | split (color key : Int32)
  | free (c : Communicator)
  | barrier (c : Communicator)
  | abort (code : Int32)
  | start
  | stop

/-- The process, its script, its journal and its events. -/
structure ScriptedProcess where
  world : Place := {}
  application : Place := {}
  started : Bool := true
  stopped : Bool := false
  failures : List PlannedFailure := []
  /-- How often each routine was called. -/
  tally : KeyMap Nat := []
  inbox : List Envelope := []
  /-- Contributions of the other ranks to reductions. -/
  remoteReals : List Float := []
  remoteInts : List Int := []
  /-- What other ranks broadcast, in order. -/
  broadcasts : List Payload := []
  /-- Counts, gathered values and scattered values of the other ranks, call by call; the last
  entry serves all later calls. -/
  counts : List (List Int32) := []
  gathered : List (List (List Float)) := []
  scattered : List (List Float) := []
  /-- Declarations by rank. -/
  declarations : List Declaration := []
  /-- What a file holds, whatever its name. -/
  file? : Option String := none
  logger : Logger
  events : List Event := []

namespace ScriptedProcess

/-- No message waits. -/
def nothingWaits : Code := 100

/-- A message was longer than the buffer. -/
def truncated : Code := 15

def placeIn (p : ScriptedProcess) : Communicator → Place
  | .world | .joint => p.world
  | .application => p.application

def event (p : ScriptedProcess) (e : Event) : ScriptedProcess :=
  { p with events := p.events ++ [e] }

/-- Counts a call of a routine and finds the code that it fails with, if it does. -/
def enter (p : ScriptedProcess) (routine : String) : Option Code × ScriptedProcess :=
  let n := (p.tally.get? routine).getD 0 + 1
  ((p.failures.find? fun f => f.hits routine n).map PlannedFailure.code,
    { p with tally := p.tally.put routine n })

/-- Calls a routine that may fail; a failed call does nothing else. -/
def call {α : Type} (p : ScriptedProcess) (routine : String)
    (work : ScriptedProcess → α × ScriptedProcess) : Except Code α × ScriptedProcess :=
  match p.enter routine with
  | (some code, p) => (.error code, p)
  | (none, p) =>
    let (value, p) := work p
    (.ok value, p)

/-- The next entry of a list; the last one stays. -/
def next {α : Type} : List α → Option α × List α
  | [] => (none, [])
  | [last] => (some last, [last])
  | entry :: rest => (some entry, rest)

/-- Combines the own values with those of the others, as far as there are any. -/
def combine {α : Type} (f : α → α → α) (own remote : List α) : List α :=
  own.mapIdx fun i x =>
    match remote[i]? with
    | some y => f x y
    | none => x

/-- Combines two values; of two that do not compare the first is taken. -/
def reduction {α : Type} [Add α] [LT α] [DecidableRel (α := α) (· < ·)] (how : Reduction)
    (a b : α) : α :=
  match how with
  | .sum => a + b
  | .min => if b < a then b else a
  | .max => if a < b then b else a

/-- Receives a broadcast on a rank that is not its root: the next one is used up, and fills
the buffer if it has the right type. -/
def takeBroadcast {α : Type} (p : ScriptedProcess) (buffer : List α)
    (values : Payload → Option (List α)) : List α × ScriptedProcess :=
  match p.broadcasts with
  | [] => (buffer, p)
  | first :: rest =>
    let filled := match values first with
      | some xs => overwrite buffer xs
      | none => buffer
    (filled, { p with broadcasts := rest })

def broadcast {α : Type} (p : ScriptedProcess) (c : Communicator) (root : Int32)
    (buffer : List α) (values : Payload → Option (List α)) : List α × ScriptedProcess :=
  if (p.placeIn c).rank = root then (buffer, p) else p.takeBroadcast buffer values

/-- The record of a declaration as it is transmitted.  Whoever declares gives whole texts, of
which a field holds the first bytes. -/
def transmitted (d : Declaration) : List UInt8 :=
  Declaration.pack ⟨.clip fieldBytes d.type.text, .clip fieldBytes d.name.text⟩

def declare (p : ScriptedProcess) (own : List UInt8) : List UInt8 :=
  (List.range p.world.size.toNatClampNeg).flatMap fun r =>
    if Int32.ofNat r = p.world.rank then own
    else transmitted ((p.declarations[r]?).getD ⟨"", ""⟩)

/-- The counts of all ranks, on rank 0. -/
def gatherCount (p : ScriptedProcess) (c : Communicator) (own : Int32) :
    List Int32 × ScriptedProcess :=
  let place := p.placeIn c
  if place.isRoot then
    let (others, counts) := next p.counts
    let others := others.getD []
    (own :: (List.range (place.size.toNatClampNeg - 1)).map fun i => (others[i]?).getD 0,
      { p with counts })
  else ([], p)

/-- The first values of a list, zeros where there are too few. -/
def exactly (count : Nat) (values : List Float) : List Float :=
  values.take count ++ List.replicate (count - values.length) 0.0

/-- The values of all ranks, on rank 0. -/
def gatherReals (p : ScriptedProcess) (c : Communicator) (own : List Float)
    (counts : List Int32) : List Float × ScriptedProcess :=
  if (p.placeIn c).isRoot then
    let (others, gathered) := next p.gathered
    let others := others.getD []
    let parts := counts.mapIdx fun r n =>
      if r = 0 then exactly n.toNatClampNeg own
      else exactly n.toNatClampNeg ((others[r - 1]?).getD [])
    (parts.flatten, { p with gathered })
  else ([], p.event (.gather own))

/-- Cuts values into parts of some sizes. -/
def cut (values : List Float) : List Nat → List (List Float)
  | [] => []
  | n :: rest => values.take n :: cut (values.drop n) rest

/-- Hands out the values of rank 0, or receives what rank 0 hands out. -/
def scatterReals (p : ScriptedProcess) (c : Communicator) (values : List Float)
    (counts : List Int32) (buffer : List Float) : List Float × ScriptedProcess :=
  if (p.placeIn c).isRoot then
    match cut values (counts.map Int32.toNatClampNeg) with
    | [] => (buffer, p)
    | own :: others =>
      let told := others.zipIdx.foldl (fun p (part, i) => p.event (.scatter (i + 1) part)) p
      (overwrite buffer own, told)
  else
    let (received, scattered) := next p.scattered
    let received := received.getD []
    (overwrite buffer received, { p with scattered })

/-- Takes the first message out of the inbox that `select` accepts. -/
def takeFirst {α : Type} (select : Envelope → Option α) :
    List Envelope → Option (α × List Envelope)
  | [] => none
  | e :: rest =>
    match select e with
    | some a => some (a, rest)
    | none => (takeFirst select rest).map fun (a, others) => (a, e :: others)

def headerFrom (source : Int32) (e : Envelope) : Option Header :=
  match e.message with
  | .header h => if e.source = source then some h else none
  | .payload _ => none

def payloadFrom (source : Int32) (e : Envelope) : Option Payload :=
  match e.message with
  | .payload p => if e.source = source then some p else none
  | .header _ => none

/-- Receives the first message that `select` accepts; it is removed also when it does not
fit. -/
def receive {α : Type} (p : ScriptedProcess) (select : Envelope → Option α) (fits : α → Bool) :
    Except Code α × ScriptedProcess :=
  match p.enter "MPI_Recv" with
  | (some code, p) => (.error code, p)
  | (none, p) =>
    match takeFirst select p.inbox with
    | none => (.error nothingWaits, p)
    | some (a, inbox) =>
      (if fits a then .ok a else .error truncated, { p with inbox })

/-- Answers a request. -/
def answer : (request : Parallel.Request) → ScriptedProcess → request.Reply × ScriptedProcess
  | .isStarted, p => (p.started, p)
  | .isStopped, p => (p.stopped, p)
  | .describe, p => (⟨3, 1, "scripted"⟩, p)
  | .start, p =>
    p.call "MPI_Init_thread" fun p => ((), { p with started := true }.event .start)
  | .stop, p => p.call "MPI_Finalize" fun p => ((), { p with stopped := true }.event .stop)
  | .abort code, p => ((), p.event (.abort code))
  | .rank c, p => p.call "MPI_Comm_rank" fun p => ((p.placeIn c).rank, p)
  | .size c, p => p.call "MPI_Comm_size" fun p => ((p.placeIn c).size, p)
  | .duplicate _, p => p.call "MPI_Comm_dup" fun p => ((), p)
  | .returnErrors _, p => p.call "MPI_Comm_set_errhandler" fun p => ((), p)
  | .split _ color key, p =>
    p.call "MPI_Comm_split" fun p => ((), p.event (.split color key))
  | .free c, p => ((), p.event (.free c))
  | .barrier c, p => p.call "MPI_Barrier" fun p => ((), p.event (.barrier c))
  | .broadcastReals c root buffer, p =>
    p.call "MPI_Bcast" fun p => p.broadcast c root buffer fun
      | .reals xs => some xs
      | .ints _ => none
  | .broadcastInts c root buffer, p =>
    p.call "MPI_Bcast" fun p => p.broadcast c root buffer fun
      | .ints is => some is
      | .reals _ => none
  | .reduceReals _ how values, p =>
    p.call "MPI_Allreduce" fun p => (combine (reduction how) values p.remoteReals, p)
  | .reduceInts _ how values, p =>
    p.call "MPI_Allreduce" fun p =>
      (combine (reduction how) values (p.remoteInts.map Int32.ofInt), p)
  | .sumCounts _ values, p =>
    p.call "MPI_Allreduce" fun p =>
      (combine (reduction .sum) values (p.remoteInts.map Int64.ofInt), p)
  | .declare _ own, p => p.call "MPI_Allgather" fun p => (p.declare own, p)
  | .gatherCount c own, p => p.call "MPI_Gather" fun p => p.gatherCount c own
  | .gatherReals c own counts, p =>
    p.call "MPI_Gatherv" fun p => p.gatherReals c own counts
  | .scatterReals c values counts buffer, p =>
    p.call "MPI_Scatterv" fun p => p.scatterReals c values counts buffer
  | .sendHeader dest h, p => p.call "MPI_Send" fun p => ((), p.event (.header dest h))
  | .sendPayload dest d, p => p.call "MPI_Send" fun p => ((), p.event (.data dest d))
  | .receiveHeader source, p => p.receive (headerFrom source) fun _ => true
  | .receivePayload source limit, p =>
    p.receive (payloadFrom source) fun d => d.size ≤ limit
  | .note notice, p => ((), { p with logger := p.logger.note notice })
  | .setUpJournal setup, p => ((), { p with logger := p.logger.setUp setup })
  | .readFile _, p => (p.file?, p)

/-- Runs a program of a process. -/
def run {α : Type} (program : Program Parallel α) (p : ScriptedProcess) : α × ScriptedProcess :=
  program.run answer p

/-- Runs an act of a process. -/
def perform {σ α : Type} (act : Act Parallel σ α) (s : σ) (p : ScriptedProcess) :
    (Except Fault α × σ) × ScriptedProcess :=
  p.run (act s)

end ScriptedProcess

end FluidStructure.Simulation
