import FluidStructure.Discovery.Outcome
import FluidStructure.Journal.Notice

/-!
# Finding the peer solver

Among the launched applications, those of the wanted type are matched; an application
never matches itself.  One match is the normal case, none means a dry run, and more
than one cannot be handled.
-/

namespace FluidStructure.Discovery

open FluidStructure.Journal

/-- A launched application. -/
structure Application where
  /-- Its lowest rank. -/
  root : Int32 := -1
  ranks : Int32 := 0
  type : Text.Label
  name : Text.Label
deriving DecidableEq, Repr

/-- The remote solver as a session sees it; without one the root is negative. -/
structure Peer where
  root : Int32 := -1
  type : Text.Label := ""
  name : Text.Label := ""
deriving DecidableEq, Repr

namespace Peer

def none : Peer := {}

def found (p : Peer) : Bool := 0 ≤ p.root

end Peer

/-- The peer that an application is. -/
def Application.asPeer (a : Application) : Peer := ⟨a.root, a.type, a.name⟩

/-- Does the type of the application start with the wanted one? -/
def Application.hasType (a : Application) (wanted : String) : Bool :=
  a.type.startsWith wanted

/-- What discovery found.  There is a peer only if it is the single one. -/
structure Finding where
  outcome : Outcome
  peer : Peer
  count : Nat
deriving DecidableEq, Repr

/-- The applications that match, the one at place `self` left out.  The program counts places and
matches in 32 bits; a launch has fewer than 2^31 applications. -/
def matching (apps : List Application) (self : Int) (wanted : String) : List Application :=
  (apps.zipIdx.filter fun (a, i) => (i : Int) ≠ self ∧ a.hasType wanted).map Prod.fst

/-- Sorts the matches by their number. -/
def Finding.ofMatches : List Application → Finding
  | [] => ⟨.noPeer, .none, 0⟩
  | [a] => ⟨.singlePeer, a.asPeer, 1⟩
  | several => ⟨.ambiguousPeers, .none, several.length⟩

/-- Finds the peer of the wanted type. -/
def find (apps : List Application) (self : Int) (wanted : String) : Finding :=
  .ofMatches (matching apps self wanted)

/-- The peer of a session: the single match, or none for a dry run. -/
def Finding.resolve (f : Finding) (wanted : String) : Except Fault Peer :=
  match f.outcome with
  | .singlePeer => .ok f.peer
  | .noPeer => .ok .none
  | .ambiguousPeers => .error (.ambiguousPeers f.count wanted)

/-- What is reported about a resolved finding. -/
def Finding.notice? (f : Finding) (wanted : String) : Option Notice :=
  match f.outcome with
  | .singlePeer => some (.coupledWith f.peer.type.shown f.peer.name.shown f.peer.root)
  | .noPeer => some (.peerMissing wanted)
  | .ambiguousPeers => none

end FluidStructure.Discovery
