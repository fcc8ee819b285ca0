/-!
# Outcomes of peer discovery
-/

namespace FluidStructure.Discovery

/-- How many other applications match the wanted type: none, one, or more. -/
inductive Outcome where
  | noPeer
  | singlePeer
  | ambiguousPeers
deriving DecidableEq, Repr

namespace Outcome

def all : List Outcome := [.noPeer, .singlePeer, .ambiguousPeers]

def name : Outcome → String
  | .noPeer => "NoPeer"
  | .singlePeer => "SinglePeer"
  | .ambiguousPeers => "AmbiguousPeers"

end Outcome

end FluidStructure.Discovery
