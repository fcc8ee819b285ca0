import FluidStructure.Parallel.Interface

/-!
# Life cycle of a process

Starting a process starts message passing, unless the surroundings have done so, and
sets up the journal: only rank 0 writes files, the other ranks report from warnings up.
What the process has started it also stops.
-/

namespace FluidStructure.Parallel

open FluidStructure.Journal

/-- What a process knows about message passing.  Rank and size stay after the end. -/
structure Lifecycle where
  started : Bool := false
  /-- Message passing was started here and is stopped here. -/
  owned : Bool := false
  rank : Int32 := 0
  size : Int32 := 1
deriving DecidableEq, Repr

def Lifecycle.isRoot (l : Lifecycle) : Bool := l.rank = 0

/-- How a process wants to be started. -/
structure StartOptions where
  level : Level := .info
  console : Bool := true
  logFile? : Option String := none
  messagePassing : Bool := true
deriving DecidableEq, Repr

namespace Lifecycle

/-- The version of this library. -/
def version : Nat × Nat × Nat := (0, 1, 0)

def versionText : String :=
  version.1.repr ++ "." ++ version.2.1.repr ++ "." ++ version.2.2.repr

/-- Version of the journal's format library. -/
def journalVersion : Nat × Nat × Nat := (1, 10, 0)

/-- Bytes of a real. -/
def realBytes : Nat := 8

/-- Reports the message-passing set-up. -/
def reportSetup : Act Parallel Lifecycle Unit := do
  note .processSetup
  note (.processCount (← Act.get).size)
  let d ← describe
  note (.messagePassingVersion d.major d.minor)
  note (.messagePassingLibrary d.library)

/-- Rank and size in the world, as far as they can be had. -/
def findPlace : Act Parallel Lifecycle Unit := do
  match ← rankIn .world with
  | .ok rank => Act.modify fun l => { l with rank }
  | .error _ => pure ()
  match ← sizeIn .world with
  | .ok size => Act.modify fun l => { l with size }
  | .error _ => pure ()

/-- Starts message passing, once. -/
def startMessaging : Act Parallel Lifecycle Unit := do
  if (← Act.get).started then
    note .messagePassingAlreadyStarted
  else
    if ← isStarted then
      Act.modify fun l => { l with owned := false }
    else
      checked "MPI_Init_thread" (← Act.perform (I := Parallel) .start)
      Act.modify fun l => { l with owned := true }
    Act.modify fun l => { l with started := true }
    findPlace
    if (← Act.get).isRoot then reportSetup else pure ()

/-- Stops message passing if this process started it. -/
def stopMessaging : Act Parallel Lifecycle Unit := do
  let l ← Act.get
  if l.started then
    if l.owned then
      if ← isStopped then pure ()
      else do let _ ← Act.perform (I := Parallel) .stop
    Act.set { l with started := false }
    noteIf l.isRoot .messagePassingStopped
  else pure ()

/-- Waits for all processes of the launch.  A failure has no consequence. -/
def barrier : Act Parallel Lifecycle Unit := do
  let _ ← Act.perform (I := Parallel) (.barrier .world)

/-- The journal that a process of some rank uses. -/
def journalSetup (options : StartOptions) (isRoot : Bool) : Setup :=
  if isRoot then
    match options.logFile? with
    | some file =>
      if options.console then .combined file options.level .debug else .file file options.level
    | none => .console options.level
  else .console .warn

/-- Starts a process. -/
def start (options : StartOptions) : Act Parallel Lifecycle Unit := do
  if options.messagePassing then startMessaging else pure ()
  let isRoot := !options.messagePassing || (← Act.get).isRoot
  setUpJournal (journalSetup options isRoot)
  if isRoot then
    note .banner
    note (.starting versionText)
    note .banner
  else pure ()

/-- Ends a process. -/
def stop : Act Parallel Lifecycle Unit := do
  let l ← Act.get
  noteIf (!l.started || l.isRoot) .shuttingDown
  stopMessaging

/-- Does something between the start and the end of a process. -/
def within {α : Type} (options : StartOptions) (act : Act Parallel Lifecycle α) :
    Act Parallel Lifecycle α := do
  start options
  Act.thenAlways act stop

/-- Reports what the library was built with. -/
def reportFeatures {σ : Type} : Act Parallel σ Unit := do
  let d ← describe
  note .features
  note (.featureMessagePassing d.major d.minor)
  note (.featureJournal journalVersion.1 journalVersion.2.1 journalVersion.2.2)
  note (.featurePrecision realBytes)

end Lifecycle

end FluidStructure.Parallel
