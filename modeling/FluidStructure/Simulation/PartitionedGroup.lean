/-!
# A simulated local group

The coordinating rank of a group whose other partitions contribute fixed values to every
sum.  Broadcasts from rank 0 leave its buffers as they are.
-/

namespace FluidStructure.Simulation

/-- The group, and how often it was used. -/
structure PartitionedGroup where
  size : Int32 := 1
  remoteReals : List Float := []
  remoteCounts : List Int64 := []
  reductions : Nat := 0
  broadcasts : Nat := 0

namespace PartitionedGroup

/-- Adds the contribution of the other partitions, zero where there is none. -/
def addRemote {α : Type} [Add α] (zero : α) (own remote : List α) : List α :=
  own.mapIdx fun i x => x + (remote[i]?).getD zero

def sumReals (g : PartitionedGroup) (values : List Float) : List Float × PartitionedGroup :=
  (addRemote 0.0 values g.remoteReals, { g with reductions := g.reductions + 1 })

def sumCounts (g : PartitionedGroup) (values : List Int64) : List Int64 × PartitionedGroup :=
  (addRemote 0 values g.remoteCounts, { g with reductions := g.reductions + 1 })

/-- Counts a broadcast. -/
def broadcast (g : PartitionedGroup) : PartitionedGroup :=
  { g with broadcasts := g.broadcasts + 1 }

end PartitionedGroup

end FluidStructure.Simulation
