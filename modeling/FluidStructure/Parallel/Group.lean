import FluidStructure.Parallel.Interface

/-!
# The group of one application

A group is a communicator seen from one process.  Its collective operations turn error
codes into faults.  Rank 0 is the coordinating rank, the only one that talks to the
peer.
-/

namespace FluidStructure.Parallel

/-- Where a process stands in its group. -/
structure Place where
  rank : Int32 := 0
  size : Int32 := 1
deriving DecidableEq, Repr

/-- Is this the coordinating rank? -/
def Place.isRoot (p : Place) : Bool := p.rank = 0

/-- A communicator and the place of the process in it. -/
structure Group where
  communicator : Communicator
  place : Place
  /-- An owned communicator is freed with the group. -/
  owned : Bool := false
deriving DecidableEq, Repr

namespace Group

variable {σ : Type}

/-- Finds the place of the process in a communicator. -/
def join (c : Communicator) (owned : Bool) : Act Parallel σ Group := do
  let rank ← checked "MPI_Comm_rank" (← rankIn c)
  let size ← checked "MPI_Comm_size" (← sizeIn c)
  return ⟨c, ⟨rank, size⟩, owned⟩

/-- Ends the use of a group. -/
def leave (g : Group) : Act Parallel σ Unit :=
  if g.owned then freeUnlessStopped g.communicator else pure ()

def reduceReals (g : Group) (how : Reduction) (values : List Float) :
    Act Parallel σ (List Float) := do
  checked "MPI_Allreduce" (← Act.perform (I := Parallel) (.reduceReals g.communicator how values))

def reduceInts (g : Group) (how : Reduction) (values : List Int32) :
    Act Parallel σ (List Int32) := do
  checked "MPI_Allreduce" (← Act.perform (I := Parallel) (.reduceInts g.communicator how values))

def sumCounts (g : Group) (values : List Int64) : Act Parallel σ (List Int64) := do
  checked "MPI_Allreduce" (← Act.perform (I := Parallel) (.sumCounts g.communicator values))

def broadcastReals (g : Group) (root : Int32) (buffer : List Float) :
    Act Parallel σ (List Float) := do
  checked "MPI_Bcast" (← Act.perform (I := Parallel) (.broadcastReals g.communicator root buffer))

def broadcastInts (g : Group) (root : Int32) (buffer : List Int32) :
    Act Parallel σ (List Int32) := do
  checked "MPI_Bcast" (← Act.perform (I := Parallel) (.broadcastInts g.communicator root buffer))

def barrier (g : Group) : Act Parallel σ Unit := do
  checked "MPI_Barrier" (← Act.perform (I := Parallel) (.barrier g.communicator))

end Group

end FluidStructure.Parallel
