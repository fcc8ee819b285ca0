import FluidStructure.Channel.Variable
import FluidStructure.Coupling.Surroundings
import FluidStructure.Proofs.Runs

/-!
# The transport calls of a coupled run

Of everything that a run asks for, some requests are calls of the transport to the peer.
A call is told by its direction, kind, peer and key; the values do not matter here.
-/

namespace FluidStructure.Coupling

open FluidStructure.Channel

/-- A transport call.  Fields are keyed 0, as on the channel. -/
structure Call where
  sends : Bool
  kind : Kind
  peer : Int32
  iteration : Int32
  name : String
deriving DecidableEq, Repr

namespace Request

/-- The transport call that a request makes, if it makes one. -/
def call? : Request → Option Call
  | sendInts peer iteration name _ => some ⟨true, .ints, peer, iteration, name⟩
  | sendReals peer iteration name _ => some ⟨true, .reals, peer, iteration, name⟩
  | receiveInts peer iteration name _ => some ⟨false, .ints, peer, iteration, name⟩
  | receiveReals peer iteration name _ => some ⟨false, .reals, peer, iteration, name⟩
  | sendField peer name _ => some ⟨true, .field, peer, 0, name⟩
  | receiveField peer name _ => some ⟨false, .field, peer, 0, name⟩
  | close peer => some ⟨true, .ending, peer, -1, Variable.ending⟩
  | _ => none

/-- Has a transport call this reply without failing? -/
def succeeds : (request : Request) → request.Reply → Bool
  | sendInts .., status => !Status.failed status
  | sendReals .., status => !Status.failed status
  | receiveInts .., received => !Status.failed received.1
  | receiveReals .., received => !Status.failed received.1
  | sendField .., .ok status => !Status.failed status
  | sendField .., .error _ => false
  | receiveField .., .ok received => !Status.failed received.1
  | receiveField .., .error _ => false
  | _, _ => true

/-- Does a request stay within the local group, the solver's decision and the journal? -/
def isLocal : Request → Bool
  | sumReals .. | sumCounts .. | broadcastReals .. | broadcastInts .. | peerConvergence ..
  | note .. => true
  | _ => false

/-- Is this reply the fault of an operation of the local group? -/
def faults : (request : Request) → request.Reply → Bool
  | sumReals _, .error _ => true
  | sumCounts _, .error _ => true
  | broadcastReals _, .error _ => true
  | broadcastInts _, .error _ => true
  | sendField .., .error _ => true
  | receiveField .., .error _ => true
  | _, _ => false

def imposesDisplacement : Request → Bool
  | imposeDisplacement .. => true
  | _ => false

def computesForces : Request → Bool
  | computeForces .. => true
  | _ => false

end Request

/-- The transport calls of a log. -/
def calls (log : Log Coupling) : List Call := log.filterMap fun e => e.request.call?

@[simp] theorem calls_nil : calls [] = [] := rfl

@[simp] theorem calls_append (first second : Log Coupling) :
    calls (first ++ second) = calls first ++ calls second := List.filterMap_append

theorem calls_cons (e : Exchange Coupling) (log : Log Coupling) :
    calls (e :: log) = e.request.call?.toList ++ calls log := by
  unfold calls
  rw [List.filterMap_cons]
  cases e.request.call? <;> rfl

/-- The transport calls of a log, each with whether it succeeded. -/
def trace (log : Log Coupling) : List (Call × Bool) :=
  log.filterMap fun e => e.request.call?.map fun call => (call, e.request.succeeds e.reply)

@[simp] theorem trace_nil : trace [] = [] := rfl

@[simp] theorem trace_append (first second : Log Coupling) :
    trace (first ++ second) = trace first ++ trace second := List.filterMap_append

theorem calls_eq (log : Log Coupling) : calls log = (trace log).map Prod.fst := by
  unfold calls trace
  rw [List.map_filterMap]
  congr 1
  funext e
  cases e.request.call? <;> rfl

theorem trace_of_calls {log : Log Coupling} (h : calls log = []) : trace log = [] := by
  rw [calls_eq] at h
  exact List.map_eq_nil_iff.1 h

/-- How often the log asks for forces. -/
def forceCount (log : Log Coupling) : Nat := log.countP fun e => e.request.computesForces

@[simp] theorem forceCount_nil : forceCount [] = 0 := rfl

@[simp] theorem forceCount_append (first second : Log Coupling) :
    forceCount (first ++ second) = forceCount first + forceCount second := List.countP_append

/-! ## Local requests -/

namespace Request

variable {request : Request}

theorem call?_of_isLocal (h : request.isLocal = true) : request.call? = none := by
  cases request <;> first | rfl | cases h

theorem imposesDisplacement_of_isLocal (h : request.isLocal = true) :
    request.imposesDisplacement = false := by
  cases request <;> first | rfl | cases h

theorem computesForces_of_isLocal (h : request.isLocal = true) :
    request.computesForces = false := by
  cases request <;> first | rfl | cases h

end Request

/-- Nothing but local requests. -/
def Local (log : Log Coupling) : Prop := ∀ e ∈ log, e.request.isLocal = true

theorem Local.nil : Local [] := by
  intro e member
  cases member

theorem Local.cons {e : Exchange Coupling} {log : Log Coupling} (first : e.request.isLocal = true)
    (later : Local log) : Local (e :: log) := by
  intro f member
  rcases List.mem_cons.1 member with rfl | member
  · exact first
  · exact later f member

theorem Local.append {first second : Log Coupling} (h : Local first) (k : Local second) :
    Local (first ++ second) := by
  intro e member
  rcases List.mem_append.1 member with member | member
  · exact h e member
  · exact k e member

theorem Local.calls {log : Log Coupling} (h : Local log) : calls log = [] :=
  List.filterMap_eq_nil_iff.2 fun e member => Request.call?_of_isLocal (h e member)

theorem Local.trace {log : Log Coupling} (h : Local log) : trace log = [] := trace_of_calls h.calls

theorem Local.forceCount {log : Log Coupling} (h : Local log) : forceCount log = 0 := by
  refine List.countP_eq_zero.2 fun e member => ?_
  rw [Request.computesForces_of_isLocal (h e member)]
  decide

end FluidStructure.Coupling
