import FluidStructure.Discovery.Matching
import FluidStructure.Parallel.Group

/-!
# The registry of launched applications

Every rank declares the type and the name of its application.  Each distinct pair is one
application, rooted at the lowest rank that declares it, and the registry makes a
communicator for the ranks of the own application.
-/

namespace FluidStructure.Discovery

open FluidStructure.Parallel

/-- Most bytes that a type or a name can have. -/
def maxNameBytes : Nat := 63

/-- Is this the application that was declared? -/
def Application.isDeclaredBy (a : Application) (d : Declaration) : Bool :=
  a.type = d.type && a.name = d.name

/-- Counts one more rank. -/
def Application.addRank (a : Application) : Application := { a with ranks := a.ranks + 1 }

/-- Enters the declaration of a rank: one more rank of an application that is listed, or a
new application at the end. -/
def enroll (d : Declaration) (rank : Nat) : List Application → List Application
  | [] => [⟨Int32.ofNat rank, 1, d.type, d.name⟩]
  | a :: rest => if a.isDeclaredBy d then a.addRank :: rest else a :: enroll d rank rest

/-- Enters the declarations of consecutive ranks. -/
def enrollFrom (rank : Nat) (apps : List Application) : List Declaration → List Application
  | [] => apps
  | d :: rest => enrollFrom (rank + 1) (enroll d rank apps) rest

/-- The applications of a launch, given the declarations in rank order. -/
def applications (ds : List Declaration) : List Application := enrollFrom 0 [] ds

/-- The place of a declared application in the list. -/
def placeOf (apps : List Application) (d : Declaration) : Nat :=
  apps.findIdx fun a => a.isDeclaredBy d

/-- All applications, and the place of the own one among them. -/
structure Registry where
  applications : List Application
  self : Int32
deriving DecidableEq, Repr

namespace Registry

variable {σ : Type}

/-- What is reported about an application. -/
def applicationNotice (a : Application) : Journal.Notice :=
  .applicationFound a.name.shown a.type.shown a.root a.ranks

/-- Reports the applications one after the other. -/
def reportAll : List Application → Act Parallel σ Unit
  | [] => pure ()
  | a :: rest => do
    note (applicationNotice a)
    reportAll rest

/-- Declares the own application and builds the registry.  All ranks of the launch take
part. -/
def build (own : Declaration) : Act Parallel σ Registry := do
  if maxNameBytes < own.type.byteSize ∨ maxNameBytes < own.name.byteSize then
    Act.fail (.applicationNameTooLong maxNameBytes)
  else
    let rank ← checked "MPI_Comm_rank" (← rankIn .world)
    let size ← checked "MPI_Comm_size" (← sizeIn .world)
    let records ← checked "MPI_Allgather"
      (← Act.perform (I := Parallel) (.declare .world own.pack))
    let ds := Declaration.unpackAll size.toNatClampNeg records
    let apps := Discovery.applications ds
    let declared := (ds[rank.toNatClampNeg]?).getD own
    let self := Int32.ofNat (placeOf apps declared)
    checked "MPI_Comm_split" (← Act.perform (I := Parallel) (.split .world self rank))
    if rank = 0 then
      note (.applicationsFound apps.length)
      reportAll apps
    else pure ()
    return ⟨apps, self⟩

/-- Ends the use of a registry and of its communicator. -/
def discard : Act Parallel σ Unit := freeUnlessStopped .application

end Registry

/-- Resolves a finding and reports what came of it. -/
def Finding.settle {σ : Type} (f : Finding) (wanted : String) : Act Parallel σ Peer := do
  match f.notice? wanted with
  | some notice => note notice
  | none => pure ()
  Act.ofExcept (f.resolve wanted)

end FluidStructure.Discovery
