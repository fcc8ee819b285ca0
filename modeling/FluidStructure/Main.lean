import FluidStructure.Programs.Fluid
import FluidStructure.Programs.Structure
import FluidStructure.Simulation.ScriptedProcess

/-!
# Command line

Runs one of the two programs as the only process of its launch and prints its journal.
The fluid program then finds no structural solver and runs dry.
-/

namespace FluidStructure.CommandLine

open FluidStructure.Journal FluidStructure.Parallel FluidStructure.Programs
open FluidStructure.Simulation

/-- The two programs. -/
inductive Choice where
  | fluid
  | structural

/-- What the arguments ask for: a program and its configuration file. -/
structure Command where
  choice : Choice
  file : String

/-- The configuration that is read if none is named. -/
def standardFile : String := "configs/fsi_flap.yaml"

/-- Reads the arguments; none if they name no program. -/
def Command.ofArguments? : List String → Option Command
  | "fluid" :: rest => some ⟨.fluid, rest.headD standardFile⟩
  | "structure" :: rest => some ⟨.structural, rest.headD standardFile⟩
  | _ => none

def usage : String := "usage: fluidstructure (fluid | structure) [FILE]"

/-- The act that a command stands for. -/
def Command.act (c : Command) : Act Parallel Lifecycle Int32 :=
  match c.choice with
  | .fluid => Fluid.program c.file
  | .structural => Structure.program c.file

/-- A process that is alone, with a file that may be missing. -/
def aloneWith (content? : Option String) : ScriptedProcess :=
  { started := false, file? := content?, logger := Logger.console .off }

/-- A record as one line. -/
def line (r : Record) : String := "[" ++ r.level.name ++ "] " ++ r.text

/-- The lines that a command prints on the console and its exit code, given the content of
its file. -/
def Command.run (c : Command) (content? : Option String) : List String × UInt32 :=
  let ((result, _), process) := ScriptedProcess.perform c.act {} (aloneWith content?)
  let lines := (process.logger.records.filter fun r => r.target = .console).map line
  match result with
  | .ok code => (lines, code.toUInt32)
  | .error fault => (lines ++ [fault.message], 1)

/-- The content of a file, if it can be read. -/
def readContent (file : String) : IO (Option String) := do
  try
    return some (← IO.FS.readFile file)
  catch _ =>
    return none

end FluidStructure.CommandLine

open FluidStructure.CommandLine in
/-- Prints the journal of the program that the arguments name. -/
def main (args : List String) : IO UInt32 := do
  match Command.ofArguments? args with
  | none =>
    IO.eprintln usage
    return 2
  | some command =>
    let (lines, code) := command.run (← readContent command.file)
    for text in lines do
      IO.println text
    return code
