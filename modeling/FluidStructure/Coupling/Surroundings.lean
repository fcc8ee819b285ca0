import FluidStructure.Act
import FluidStructure.Channel.Status
import FluidStructure.Coupling.RunControl
import FluidStructure.Coupling.Session
import FluidStructure.Parallel.Group

/-!
# What a coupled run asks for

A coupled run asks its local group for collective operations, its channel for exchanges
with the peer, and the fluid solver for forces and decisions.  Collective operations,
fields included, may fault; control values only have a status.
-/

namespace FluidStructure.Coupling

open FluidStructure.Channel FluidStructure.Journal

/-- What a coupled run can ask. -/
inductive Request where
  -- local group; broadcasts come from rank 0
  | sumReals (values : List Float)
  | sumCounts (values : List Int64)
  | broadcastReals (buffer : List Float)
  | broadcastInts (buffer : List Int32)
  -- control values, coordinating rank only
  | sendInts (peer iteration : Int32) (name : String) (values : List Int32)
  | sendReals (peer iteration : Int32) (name : String) (values : List Float)
  | receiveInts (peer iteration : Int32) (name : String) (buffer : List Int32)
  | receiveReals (peer iteration : Int32) (name : String) (buffer : List Float)
  -- interface fields, all ranks
  | sendField (peer : Int32) (name : String) (values : List Float)
  | receiveField (peer : Int32) (name : String) (buffer : List Float)
  /-- No further message will follow. -/
  | close (peer : Int32)
  -- fluid solver
  /-- Writes interface forces into a buffer, also when it faults. -/
  | computeForces (session : Session) (run : RunControl) (buffer : List Float)
  | imposeDisplacement (session : Session) (displacement : List Float)
  /-- Has the structure converged, given what the fluid found? -/
  | peerConvergence (session : Session) (converged : Bool)
  -- journal
  | note (notice : Notice)

/-- The reply to each request. -/
@[reducible] def Request.Reply : Request → Type
  | sumReals _ | broadcastReals _ => Except Fault (List Float)
  | sumCounts _ => Except Fault (List Int64)
  | broadcastInts _ => Except Fault (List Int32)
  | sendInts .. | sendReals .. => Status
  | receiveInts .. => Status × List Int32
  | receiveReals .. => Status × List Float
  | sendField .. => Except Fault Status
  | receiveField .. => Except Fault (Status × List Float)
  | close _ | note _ => Unit
  | computeForces .. => Except Fault Unit × List Float
  | imposeDisplacement .. => Except Fault Unit
  | peerConvergence .. => Except Fault Bool

end Coupling

open Coupling in
/-- What a coupled run asks for. -/
abbrev Coupling : Interface := ⟨Request, Request.Reply⟩

namespace Coupling

open FluidStructure.Channel FluidStructure.Journal

variable {σ : Type}

/-- Reports a notice under a condition. -/
def noteIf (condition : Bool) (notice : Notice) : Act Coupling σ Unit :=
  if condition then Act.perform (I := Coupling) (.note notice) else pure ()

/-! ## Local group -/

def sumReals (values : List Float) : Act Coupling σ (List Float) := do
  Act.ofExcept (← Act.perform (I := Coupling) (.sumReals values))

def sumCounts (values : List Int64) : Act Coupling σ (List Int64) := do
  Act.ofExcept (← Act.perform (I := Coupling) (.sumCounts values))

/-- The real that rank 0 has. -/
def shareReal (own : Float) : Act Coupling σ Float := do
  let values ← Act.ofExcept (← Act.perform (I := Coupling) (.broadcastReals [own]))
  return values.headD own

/-- The integer that rank 0 has. -/
def shareInt (own : Int32) : Act Coupling σ Int32 := do
  let values ← Act.ofExcept (← Act.perform (I := Coupling) (.broadcastInts [own]))
  return values.headD own

/-- The pair of integers that rank 0 has. -/
def sharePair (first second : Int32) : Act Coupling σ (Int32 × Int32) := do
  let values ← Act.ofExcept (← Act.perform (I := Coupling) (.broadcastInts [first, second]))
  return (values[0]?.getD first, values[1]?.getD second)

/-! ## Channel -/

def sendInt (peer iteration : Int32) (name : String) (value : Int32) : Act Coupling σ Status :=
  Act.perform (I := Coupling) (.sendInts peer iteration name [value])

def sendReal (peer iteration : Int32) (name : String) (value : Float) : Act Coupling σ Status :=
  Act.perform (I := Coupling) (.sendReals peer iteration name [value])

/-- Receives one real; without a value the old one stays. -/
def receiveReal (peer iteration : Int32) (name : String) (old : Float) :
    Act Coupling σ (Status × Float) := do
  let (status, values) ← Act.perform (I := Coupling) (.receiveReals peer iteration name [old])
  return (status, values.headD old)

def sendField (peer : Int32) (name : String) (values : List Float) : Act Coupling σ Status := do
  Act.ofExcept (← Act.perform (I := Coupling) (.sendField peer name values))

/-- Receives a field; the buffer keeps its size. -/
def receiveField (peer : Int32) (name : String) (buffer : List Float) :
    Act Coupling σ (Status × List Float) := do
  let (status, values) ← Act.ofExcept
    (← Act.perform (I := Coupling) (.receiveField peer name buffer))
  return (status, overwrite buffer values)

def closeChannel (peer : Int32) : Act Coupling σ Unit := Act.perform (I := Coupling) (.close peer)

end Coupling

end FluidStructure
