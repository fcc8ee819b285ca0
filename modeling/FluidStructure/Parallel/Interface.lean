import FluidStructure.Act
import FluidStructure.Channel.Message
import FluidStructure.Journal.Logger
import FluidStructure.Parallel.Record

/-!
# One process of a parallel run

A parallel run has many processes; each has a rank in the communicators it belongs to.
The requests below are all that one process asks of its surroundings: point to point
messages, collective operations, the life cycle of the message-passing library, the
journal, and reading a file.  An operation that can fail replies with an error code.
-/

namespace FluidStructure.Parallel

open FluidStructure.Channel FluidStructure.Journal

/-- Groups of processes. -/
inductive Communicator where
  /-- All processes of the launch. -/
  | world
  /-- The processes of the own application. -/
  | application
  /-- A duplicate of the world, for messages between the applications. -/
  | joint
deriving DecidableEq, Repr

/-- An error code. -/
abbrev Code := Int32

/-- Ways to combine the values of several ranks. -/
inductive Reduction where
  | sum
  | min
  | max
deriving DecidableEq, Repr

/-- What the message-passing library says about itself. -/
structure Description where
  major : Nat
  minor : Nat
  library : String
deriving DecidableEq, Repr

/-- What a process can ask. -/
inductive Request where
  -- life cycle
  | isStarted
  | isStopped
  | describe
  | start
  | stop
  | abort (code : Int32)
  -- communicators
  | rank (c : Communicator)
  | size (c : Communicator)
  /-- Makes the joint communicator. -/
  | duplicate (c : Communicator)
  /-- Errors on this communicator become codes. -/
  | returnErrors (c : Communicator)
  /-- Makes the application communicator from the ranks with the same color. -/
  | split (c : Communicator) (color key : Int32)
  | free (c : Communicator)
  -- collective operations
  | barrier (c : Communicator)
  | broadcastReals (c : Communicator) (root : Int32) (buffer : List Float)
  | broadcastInts (c : Communicator) (root : Int32) (buffer : List Int32)
  | reduceReals (c : Communicator) (how : Reduction) (values : List Float)
  | reduceInts (c : Communicator) (how : Reduction) (values : List Int32)
  | sumCounts (c : Communicator) (values : List Int64)
  /-- Replies with the records of all ranks, one behind the other in rank order. -/
  | declare (c : Communicator) (record : List UInt8)
  /-- Replies with the counts of all ranks on rank 0 and with nothing elsewhere. -/
  | gatherCount (c : Communicator) (own : Int32)
  /-- Replies with the values of all ranks on rank 0 and with nothing elsewhere. -/
  | gatherReals (c : Communicator) (own : List Float) (counts : List Int32)
  /-- Hands out the values of rank 0 in rank order; replies with the buffer. -/
  | scatterReals (c : Communicator) (values : List Float) (counts : List Int32)
      (buffer : List Float)
  -- messages on the joint communicator
  | sendHeader (dest : Int32) (header : Header)
  | sendPayload (dest : Int32) (payload : Payload)
  | receiveHeader (source : Int32)
  /-- Receives a payload of at most so many bytes. -/
  | receivePayload (source : Int32) (limit : Nat)
  -- journal and files
  | note (notice : Notice)
  | setUpJournal (setup : Setup)
  | readFile (name : String)

/-- The reply to each request.  An error code comes without data.  So a failed receive is assumed to
leave its buffer alone, which message passing does not promise of a payload that is too long. -/
@[reducible] def Request.Reply : Request → Type
  | isStarted | isStopped => Bool
  | describe => Description
  | start | stop => Except Code Unit
  | abort _ => Unit
  | rank _ | size _ => Except Code Int32
  | duplicate _ | returnErrors _ | split .. => Except Code Unit
  | free _ => Unit
  | barrier _ => Except Code Unit
  | broadcastReals .. | reduceReals .. | gatherReals .. | scatterReals .. =>
    Except Code (List Float)
  | broadcastInts .. | reduceInts .. | gatherCount .. => Except Code (List Int32)
  | sumCounts .. => Except Code (List Int64)
  | declare .. => Except Code (List UInt8)
  | sendHeader .. | sendPayload .. => Except Code Unit
  | receiveHeader _ => Except Code Header
  | receivePayload .. => Except Code Payload
  | note _ | setUpJournal _ => Unit
  | readFile _ => Option String

end Parallel

open Parallel in
/-- What one process of a parallel run asks for. -/
abbrev Parallel : Interface := ⟨Request, Request.Reply⟩

namespace Parallel

open FluidStructure.Journal

variable {σ α : Type}

/-- Asks once. -/
def ask (request : Request) : Program Parallel request.Reply := Program.perform (I := Parallel) request

/-- Reports a notice. -/
def note (notice : Notice) : Act Parallel σ Unit := Act.perform (I := Parallel) (.note notice)

/-- Reports a notice under a condition. -/
def noteIf (condition : Bool) (notice : Notice) : Act Parallel σ Unit :=
  if condition then note notice else pure ()

/-- Has message passing been started, by whomever? -/
def isStarted : Act Parallel σ Bool := Act.perform (I := Parallel) .isStarted

/-- Has message passing been stopped? -/
def isStopped : Act Parallel σ Bool := Act.perform (I := Parallel) .isStopped

def describe : Act Parallel σ Description := Act.perform (I := Parallel) .describe

/-- Sets up the journal. -/
def setUpJournal (setup : Setup) : Act Parallel σ Unit :=
  Act.perform (I := Parallel) (.setUpJournal setup)

/-- The content of a file, if there is one. -/
def readFile (name : String) : Act Parallel σ (Option String) :=
  Act.perform (I := Parallel) (.readFile name)

def abort (code : Int32) : Act Parallel σ Unit := Act.perform (I := Parallel) (.abort code)

def rankIn (c : Communicator) : Act Parallel σ (Except Code Int32) :=
  Act.perform (I := Parallel) (.rank c)

def sizeIn (c : Communicator) : Act Parallel σ (Except Code Int32) :=
  Act.perform (I := Parallel) (.size c)

/-- Frees a communicator unless message passing has already stopped. -/
def freeUnlessStopped (c : Communicator) : Act Parallel σ Unit := do
  if ← isStopped then pure () else Act.perform (I := Parallel) (.free c)

/-- An error code becomes a fault that names the operation. -/
def checked (operation : String) : Except Code α → Act Parallel σ α
  | .ok value => pure value
  | .error code => Act.fail (.messagePassing operation code)

end Parallel

end FluidStructure
