import FluidStructure.Channel.Variable
import FluidStructure.Coupling.Surroundings

/-!
# Agreement on a time step

Once per step the coordinating rank receives the step that the structure proposes,
chooses the smallest of the reference step, that proposal and the own candidate, and
sends the choice back.  A failed exchange is no fault: the session is terminated, the
step is the reference step, and the run stops after the next step.
-/

namespace FluidStructure.Coupling.TimeStep

open FluidStructure.Channel FluidStructure.Journal

/-- The smaller of two steps, the first if they do not compare. -/
def smaller (a b : Float) : Float := if b < a then b else a

/-- The smallest of three steps, the earlier one if two do not compare. -/
def smallest (reference peer own : Float) : Float := smaller (smaller reference peer) own

/-- Session and run control, which a negotiation changes together. -/
structure Schedule where
  session : Session
  run : RunControl

/-- The exchange on the coordinating rank; none if it fails. -/
def exchange {σ : Type} (s : Session) (iteration : Int32) (own : Float) :
    Act Coupling σ (Option Float) := do
  let reference := s.parameters.referenceStep
  let (received, proposed) ←
    receiveReal s.peer.root iteration Variable.peerTimeStep reference
  if Status.failed received then
    Act.perform (I := Coupling) (.note (.receiveFailed Variable.peerTimeStep received))
    return none
  else
    let chosen := smallest reference proposed own
    let sent ← sendReal s.peer.root iteration Variable.negotiatedTimeStep chosen
    if Status.failed sent then
      Act.perform (I := Coupling) (.note (.sendFailed Variable.negotiatedTimeStep sent))
      return none
    else
      noteIf s.isTracing (.stepExchanged iteration own proposed chosen)
      return some chosen

/-- What the coordinating rank proposes to its group: the iteration, negative after a failed
exchange, and the step.  The other ranks have a proposal too, which the group ignores. -/
def propose {σ : Type} (place : Parallel.Place) (s : Session) (own : Float) :
    Act Coupling σ (Int32 × Float) := do
  let iteration := s.iteration + 1
  if !s.isDryRun && place.isRoot then
    match ← exchange s iteration own with
    | some chosen => return (iteration, chosen)
    | none =>
      Act.perform (I := Coupling) (.note .exchangeLost)
      return (-1, s.parameters.referenceStep)
  else return (iteration, smaller s.parameters.referenceStep own)

/-- Enters an agreed iteration and step. -/
def Schedule.agree (t : Schedule) (iteration : Int32) (dt : Float) : Schedule where
  session := (({ t.session with iteration := iteration }).setDt dt).resetSubIterations
  run := if iteration < 0 then t.run.windDown else t.run

/-- Agrees on the step of the next iteration.  A terminated session takes the own candidate
and stays as it is. -/
def negotiate (place : Parallel.Place) (own : Float) : Act Coupling Schedule Float := do
  let s := (← Act.get).session
  if s.isTerminated then return own
  else
    let (proposedIteration, proposedDt) ← propose place s own
    let dt ← shareReal proposedDt
    let iteration ← shareInt proposedIteration
    Act.modify fun t => t.agree iteration dt
    noteIf (place.isRoot && s.isVerbose && !(iteration < 0)) (.stepNegotiated iteration dt)
    return dt

end FluidStructure.Coupling.TimeStep
