import FluidStructure.Config.Reader
import FluidStructure.Coupling.Parameters
import FluidStructure.Parallel.Interface
import FluidStructure.Surface.Interface

/-!
# Configuration of a program

Reading the configuration file and the coupling parameters, with what is reported about
them.
-/

namespace FluidStructure.Programs

open FluidStructure.Coupling FluidStructure.Parallel

variable {σ : Type}

/-- Reads a configuration file. -/
def readConfiguration (file : String) : Act Parallel σ Config.Section := do
  match ← readFile file with
  | none => Act.fail (.fileAccess "open" file)
  | some text =>
    note (.readingFile file)
    Act.ofExcept (Config.read text)

/-- Takes the coupling parameters from a configuration. -/
def readParameters (config : Config.Section) : Act Parallel σ Parameters := do
  let p ← Act.ofExcept (Parameters.ofSection config)
  note p.notice
  return p

/-- Reports an interface that was made, or faults. -/
def reportSurface (surface : Except Fault Surface) : Act Parallel σ Surface := do
  let s ← Act.ofExcept surface
  note s.notice
  return s

/-- Default number of faces of each fluid rank. -/
def standardFaces : Int32 := 8

/-- Faces of each fluid rank.  A negative number counts as none here; the program takes it for a
size and ends on an error of length, which is none of its faults. -/
def facesPerRank (flap : Config.Section) : Except Fault Nat :=
  (flap.getInt "faces_per_rank" standardFaces).map Int32.toNatClampNeg

end FluidStructure.Programs
