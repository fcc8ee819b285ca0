import FluidStructure.Journal.Notice

/-!
# The logger

A logger has a level of its own and sinks with a level each.  A message is recorded
once for every sink whose level it reaches, provided that it reaches the logger's.
Installing sinks replaces the former ones; changing the level leaves the sinks alone.
-/

namespace FluidStructure.Journal

/-- Where records go. -/
inductive Target where
  | console
  | file (name : String)
  /-- A file that is replaced when it is full; so many are kept. -/
  | rotatingFile (name : String) (maxBytes maxFiles : Nat)
deriving DecidableEq, Repr

namespace Target

def name : Target → String
  | .console => "console"
  | .file name => "file:" ++ name
  | .rotatingFile name maxBytes maxFiles =>
    "rotating:" ++ name ++ ":" ++ maxBytes.repr ++ ":" ++ maxFiles.repr

end Target

/-- A target and the level from which it records. -/
structure Sink where
  target : Target
  level : Level
deriving DecidableEq, Repr

/-- One message at one sink. -/
structure Record where
  level : Level
  target : Target
  text : String
deriving DecidableEq, Repr

/-- Levels, sinks and everything recorded so far. -/
structure Logger where
  level : Level
  sinks : List Sink
  records : List Record := []
deriving DecidableEq, Repr

/-- Ways to set up a logger. -/
inductive Setup where
  | console (level : Level)
  | file (name : String) (level : Level)
  /-- Console and file; the logger lets everything pass and the sinks decide. -/
  | combined (name : String) (consoleLevel fileLevel : Level)
  /-- Keeps the sinks. -/
  | level (level : Level)
deriving DecidableEq, Repr

namespace Logger

/-- A rotating file takes ten mebibytes. -/
def maxFileBytes : Nat := 1024 * 1024 * 10

def maxFiles : Nat := 3

/-- A logger on the console. -/
def console (level : Level) : Logger := ⟨level, [⟨.console, level⟩], []⟩

/-- Changes sinks or level; records are kept. -/
def setUp (logger : Logger) : Setup → Logger
  | .console level => { logger with level := level, sinks := [⟨.console, level⟩] }
  | .file name level =>
    { logger with level := level, sinks := [⟨.rotatingFile name maxFileBytes maxFiles, level⟩] }
  | .combined name consoleLevel fileLevel =>
    { logger with level := .trace, sinks := [⟨.console, consoleLevel⟩, ⟨.file name, fileLevel⟩] }
  | .level level => { logger with level := level }

/-- The records that a message gives. -/
def recordsOf (logger : Logger) (level : Level) (text : String) : List Record :=
  if level.reaches logger.level then
    (logger.sinks.filter fun sink => level.reaches sink.level).map fun sink =>
      ⟨level, sink.target, text⟩
  else []

/-- Records a message. -/
def write (logger : Logger) (level : Level) (text : String) : Logger :=
  { logger with records := logger.records ++ logger.recordsOf level text }

/-- Records a notice. -/
def note (logger : Logger) (notice : Notice) : Logger := logger.write notice.level notice.text

end Logger

end FluidStructure.Journal
