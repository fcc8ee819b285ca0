import FluidStructure.Config.Value
import FluidStructure.Fault
import FluidStructure.KeyMap

/-!
# Configuration sections

A section has a name, values under keys, and subsections under their names.  Values
and subsections have separate name spaces.  The getters give a default for a missing
key and refuse a value of another type; an integer may stand where a real is wanted.
-/

namespace FluidStructure.Config

/-- A section of a configuration, with all sections below it. -/
inductive Section where
  | node (name : String) (values : KeyMap Value)
    (subsections : List (String × Section))

namespace Section

/-- A section without content. -/
def empty (name : String) : Section := .node name [] []

def name : Section → String
  | node name _ _ => name

def values : Section → KeyMap Value
  | node _ values _ => values

def subsections : Section → KeyMap Section
  | node _ _ subsections => subsections

/-- Stores a value under a key. -/
def set (s : Section) (key : String) (value : Value) : Section :=
  .node s.name (s.values.put key value) s.subsections

def has (s : Section) (key : String) : Bool := s.values.contains key

def hasSubsection (s : Section) (name : String) : Bool := s.subsections.contains name

/-- The subsection of that name, an empty one if there is none yet. -/
def childOrEmpty (s : Section) (name : String) : Section :=
  (s.subsections.get? name).getD (empty name)

/-- Changes the section at the end of a path of names; sections on the way that do not
exist are created. -/
def updateAt (change : Section → Section) : List String → Section → Section
  | [], s => change s
  | name :: path, s =>
    .node s.name s.values
      (s.subsections.put name (updateAt change path (s.childOrEmpty name)))

/-- An existing subsection. -/
def subsection (s : Section) (name : String) : Except Fault Section :=
  match s.subsections.get? name with
  | some child => .ok child
  | none => .error (.subsectionMissing name)

/-- The value under a key as read by `read`, the default if the key is missing. -/
def getWith {α : Type} (s : Section) (key expected : String) (default : α)
    (read : Value → Option α) : Except Fault α :=
  match s.values.get? key with
  | none => .ok default
  | some value =>
    match read value with
    | some a => .ok a
    | none => .error (.valueType s.name key expected)

def getText (s : Section) (key : String) (default : String) : Except Fault String :=
  s.getWith key "string" default fun
    | .text t => some t
    | _ => none

def getReal (s : Section) (key : String) (default : Float) : Except Fault Float :=
  s.getWith key "real" default fun
    | .real x => some x
    | .int i => some i.toFloat
    | _ => none

def getInt (s : Section) (key : String) (default : Int32) : Except Fault Int32 :=
  s.getWith key "integer" default fun
    | .int i => some i
    | _ => none

def getBool (s : Section) (key : String) (default : Bool) : Except Fault Bool :=
  s.getWith key "boolean" default fun
    | .bool b => some b
    | _ => none

def getReals (s : Section) (key : String) : Except Fault (List Float) :=
  s.getWith key "real array" [] fun
    | .reals xs => some xs
    | .ints is => some (is.map Int32.toFloat)
    | _ => none

def getInts (s : Section) (key : String) : Except Fault (List Int32) :=
  s.getWith key "integer array" [] fun
    | .ints is => some is
    | _ => none

def getTexts (s : Section) (key : String) : Except Fault (List String) :=
  s.getWith key "string array" [] fun
    | .texts ss => some ss
    | _ => none

end Section

end FluidStructure.Config
