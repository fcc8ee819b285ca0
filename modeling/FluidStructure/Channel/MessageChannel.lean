import FluidStructure.Channel.ReceiveBuffer
import FluidStructure.Channel.Variable
import FluidStructure.Parallel.Group

/-!
# The message channel

A channel to the peer over messages on the joint communicator.  A header with the key
goes ahead of the values; a receive checks name, iteration, kind and count against what
it expects and takes the payload of a wrong message off the channel.  Interface fields
are gathered in rank order on the local root, exchanged from root to root, and handed
out again; every rank obtains the same status.
-/

namespace FluidStructure.Channel

open FluidStructure.Parallel

/-- One end of a channel, as one rank sees it. -/
structure MessageChannel where
  place : Place
  /-- Fields pass through here on the local root.  What a short payload does not reach
  keeps its former contents. -/
  staging : List Slot := []

namespace MessageChannel

variable {σ : Type}

/-- Sets up the own end.  The errors of the peer become codes. -/
def setUp : Act Parallel σ MessageChannel := do
  checked "MPI_Comm_dup" (← Act.perform (I := Parallel) (.duplicate .world))
  checked "MPI_Comm_set_errhandler" (← Act.perform (I := Parallel) (.returnErrors .joint))
  let rank ← checked "MPI_Comm_rank" (← rankIn .application)
  let size ← checked "MPI_Comm_size" (← sizeIn .application)
  return { place := ⟨rank, size⟩ }

/-- Takes the own end down. -/
def takeDown : Act Parallel σ Unit := freeUnlessStopped .joint

/-- Only the root of the local group talks to the peer. -/
def isLocalRoot (c : MessageChannel) : Bool := c.place.isRoot

/-! ## Messages -/

/-- Sends a header and, if there are values, a payload. -/
def sendMessage (peer iteration : Int32) (name : String) (kind : Kind) (payload : Payload) :
    Program Parallel Status := do
  if maxNameBytes < name.utf8ByteSize then
    ask (.note (.nameTooLong name maxNameBytes))
    return Status.protocolError
  else
    let count := Int32.ofNat payload.length
    match ← ask (.sendHeader peer ⟨iteration, count, kind.code, name⟩) with
    | .error code =>
      ask (.note (.headerSendFailed name code))
      return Status.disconnected
    | .ok () =>
      if 0 < count then
        match ← ask (.sendPayload peer payload) with
        | .error code =>
          ask (.note (.payloadSendFailed name code))
          return Status.disconnected
        | .ok () => return count
      else return count

/-- What a receive waits for. -/
structure Expected where
  iteration : Int32
  name : String
  kind : Kind
  count : Int32
  /-- The count has to be equal; otherwise it may be smaller. -/
  exact : Bool

/-- Does the header have the expected key? -/
def Expected.keyMatches (e : Expected) (h : Header) : Bool :=
  h.receivedName = (e.name : Text.Label) && h.iteration = e.iteration && h.kind = e.kind.code

/-- Is the count of the header acceptable? -/
def Expected.countFits (e : Expected) (h : Header) : Bool :=
  (if e.exact then h.count = e.count else h.count ≤ e.count) && 0 ≤ h.count

/-- Does this header announce what is expected? -/
def Expected.accepts (e : Expected) (h : Header) : Bool := e.keyMatches h && e.countFits h

/-- What is reported about a message that is not the expected one. -/
def Expected.notice (e : Expected) (h : Header) : Journal.Notice :=
  .unexpectedMessage e.name e.iteration e.count h.receivedName.shown h.iteration h.count

/-- Bytes that a header announces, for elements of some size. -/
def announcedBytes (h : Header) (elementSize : Nat) : Nat :=
  h.count.toNatClampNeg * elementSize

/-- Receives a message into a buffer.  A failure leaves the buffer alone; for a payload that comes
with an error code this is the assumption about the replies. -/
def receiveMessage (peer : Int32) (expected : Expected) (buffer : ReceiveBuffer) :
    Program Parallel (Status × ReceiveBuffer) := do
  match ← ask (.receiveHeader peer) with
  | .error code =>
    ask (.note (.headerReceiveFailed expected.name code))
    return (Status.disconnected, buffer)
  | .ok header =>
    if header.kind = Kind.ending.code then return (Status.terminated, buffer)
    else if !expected.accepts header then
      ask (.note (expected.notice header))
      if 0 < header.count then
        let _ ← ask
          (.receivePayload peer (announcedBytes header buffer.elementSize))
      else pure ()
      return (Status.protocolError, buffer)
    else if 0 < header.count then
      match ← ask
          (.receivePayload peer (announcedBytes header buffer.elementSize)) with
      | .error code =>
        ask (.note (.payloadReceiveFailed expected.name code))
        return (Status.disconnected, buffer)
      | .ok payload => return (header.count, buffer.receive payload)
    else return (header.count, buffer)

/-! ## Control values -/

def sendInts (peer iteration : Int32) (name : String) (values : List Int32) :
    Program Parallel Status :=
  sendMessage peer iteration name .ints (.ints values)

def sendReals (peer iteration : Int32) (name : String) (values : List Float) :
    Program Parallel Status :=
  sendMessage peer iteration name .reals (.reals values)

def receiveInts (peer iteration : Int32) (name : String) (buffer : List Int32) :
    Program Parallel (Status × List Int32) := do
  let (status, received) ← receiveMessage peer
    ⟨iteration, name, .ints, Int32.ofNat buffer.length, false⟩ (.ints buffer)
  return (status, received.toInts buffer)

def receiveReals (peer iteration : Int32) (name : String) (buffer : List Float) :
    Program Parallel (Status × List Float) := do
  let (status, received) ← receiveMessage peer
    ⟨iteration, name, .reals, Int32.ofNat buffer.length, false⟩ (.ofReals buffer)
  return (status, (received.toSlots []).map Slot.value)

/-- Receives one integer. -/
def receiveInt (peer iteration : Int32) (name : String) (old : Int32) :
    Program Parallel (Status × Int32) := do
  let (status, values) ← receiveInts peer iteration name [old]
  return (status, values.headD old)

/-- Receives one real. -/
def receiveReal (peer iteration : Int32) (name : String) (old : Float) :
    Program Parallel (Status × Float) := do
  let (status, values) ← receiveReals peer iteration name [old]
  return (status, values.headD old)

/-! ## Interface fields -/

/-- Sum of the counts of a layout.  The program adds in 32 bits and fails on a negative size; here
no part and no field has 2^31 values or more. -/
def total (counts : List Int32) : Nat := (counts.map Int32.toNatClampNeg).foldr (· + ·) 0

/-- Resizes the staging slots; new ones are zero. -/
def resize (staging : List Slot) (size : Nat) : List Slot :=
  staging.take size ++ List.replicate (size - staging.length) (.whole 0.0)

/-- Learns how many values each rank has.  On the root the staging slots take the size of
the whole field. -/
def gatherLayout (own : Int32) : Act Parallel MessageChannel (List Int32) := do
  let counts ← checked "MPI_Gather"
    (← Act.perform (I := Parallel) (.gatherCount .application own))
  Act.modify fun c =>
    if c.isLocalRoot then { c with staging := resize c.staging (total counts) } else c
  return counts

/-- Hands a status of the root to all ranks. -/
def shareStatus (status : Status) : Act Parallel σ Status := do
  let shared ← checked "MPI_Bcast"
    (← Act.perform (I := Parallel) (.broadcastInts .application 0 [status]))
  return shared.headD status

/-- Sends a field that is spread over the local group. -/
def sendField (peer : Int32) (name : String) (values : List Float) :
    Act Parallel MessageChannel Status := do
  let own := Int32.ofNat values.length
  let counts ← gatherLayout own
  let gathered ← checked "MPI_Gatherv"
    (← Act.perform (I := Parallel) (.gatherReals .application values counts))
  let c ← Act.get
  let status ←
    if c.isLocalRoot then do
      Act.set { c with staging := gathered.map .whole }
      Act.lift (sendMessage peer 0 name .field (.reals gathered))
    else pure Status.ok
  let shared ← shareStatus status
  return if Status.failed shared then shared else own

/-- Receives a field into buffers that are spread over the local group. -/
def receiveField (peer : Int32) (name : String) (buffer : List Float) :
    Act Parallel MessageChannel (Status × List Float) := do
  let own := Int32.ofNat buffer.length
  let counts ← gatherLayout own
  let c ← Act.get
  let status ←
    if c.isLocalRoot then do
      let (status, received) ← Act.lift (receiveMessage peer
        ⟨0, name, .field, Int32.ofNat c.staging.length, true⟩ (.reals c.staging))
      Act.set { c with staging := received.toSlots c.staging }
      pure status
    else pure Status.ok
  let shared ← shareStatus status
  if Status.failed shared then return (shared, buffer)
  else
    let staging ← Act.gets MessageChannel.staging
    let values ← checked "MPI_Scatterv"
      (← Act.perform (I := Parallel) (.scatterReals .application (staging.map Slot.value) counts buffer))
    return (own, values)

/-! ## The end -/

/-- Tells the peer that no message will follow. -/
def close (c : MessageChannel) (peer : Int32) : Program Parallel Unit := do
  if c.isLocalRoot then
    let status ← sendMessage peer (-1) Variable.ending .ending (.ints [])
    if Status.failed status then ask (.note (.endingNotDelivered peer)) else pure ()
  else pure ()

end MessageChannel

end FluidStructure.Channel
