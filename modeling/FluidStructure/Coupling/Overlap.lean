import FluidStructure.Coupling.Prediction

/-!
# Prediction within one buffer

The output and the operands of a prediction may be views into one and the same buffer.
Elements are written in increasing order, and what an element reads is the buffer as it
is at that moment.
-/

namespace FluidStructure.Coupling.Prediction

/-- A part of a buffer. -/
structure View where
  start : Nat
  length : Nat
deriving DecidableEq, Repr

/-- An element of a view. -/
def View.at (v : View) (buffer : List Float) (i : Nat) : Float :=
  (buffer[v.start + i]?).getD 0.0

/-- The content of a view. -/
def View.content (v : View) (buffer : List Float) : List Float :=
  (buffer.drop v.start).take v.length

/-- Writes `n` elements of a view from element `i` on; each is computed from the buffer
that the earlier ones left. -/
def sweep (compute : List Float → Nat → Float) (out : View) :
    Nat → Nat → List Float → List Float
  | _, 0, buffer => buffer
  | i, n + 1, buffer =>
    sweep compute out (i + 1) n (buffer.set (out.start + i) (compute buffer i))

/-- Combines operands into a view of the same length and gives the buffer as it is afterwards, also after
a fault. -/
def combineInPlace (out : View) (operands : List View) (condition : String)
    (compute : List Float → Nat → Float) (buffer : List Float) : Except Fault Unit × List Float :=
  match Fault.require (operands.all fun v => v.length = out.length) condition sizeFault with
  | .error fault => (.error fault, buffer)
  | .ok () => (.ok (), sweep compute out 0 out.length buffer)

/-- Combines two views into a third. -/
def combineInPlace2 (c : Coefficients) (out a b : View) (buffer : List Float) :
    Except Fault Unit × List Float :=
  combineInPlace out [a, b] "a.size() == out.size() && b.size() == out.size()"
    (fun now i => c.two (a.at now i) (b.at now i)) buffer

/-- Combines three views into a fourth. -/
def combineInPlace3 (c : Coefficients) (out a b d : View) (buffer : List Float) :
    Except Fault Unit × List Float :=
  combineInPlace out [a, b, d]
    "a.size() == out.size() && b.size() == out.size() && c.size() == out.size()"
    (fun now i => c.three (a.at now i) (b.at now i) (d.at now i)) buffer

/-- The buffer with two views combined into a third. -/
def combineViews2 (c : Coefficients) (buffer : List Float) (out a b : View) :
    Except Fault (List Float) :=
  let (outcome, after) := combineInPlace2 c out a b buffer
  outcome.map fun () => after

/-- The buffer with three views combined into a fourth. -/
def combineViews3 (c : Coefficients) (buffer : List Float) (out a b d : View) :
    Except Fault (List Float) :=
  let (outcome, after) := combineInPlace3 c out a b d buffer
  outcome.map fun () => after

end FluidStructure.Coupling.Prediction
