import FluidStructure.Simulation.ScriptedPeer
import Mathlib.Data.List.Induction

/-!
# Scripts of a peer

A script is a list of cues.  From it a scripted peer has, for each name, a queue of entries for each type of
values and perhaps a planned failure.  An entry is whatever the script gave to the name, in the order of
the script; of planned failures of one kind the last one counts.
-/

namespace FluidStructure.Simulation

open FluidStructure.Channel

/-! ## Cues -/

/-- Types of values.  Each has operations and queues of its own. -/
inductive Flavour where
  | ints
  | reals
  | field
deriving DecidableEq, Repr

abbrev Flavour.Value : Flavour → Type
  | .ints => Int32
  | .reals | .field => Float

/-- One item of a script. -/
inductive Cue where
  | int (name : String) (value : Int32)
  | real (name : String) (value : Float)
  | field (name : String) (values : List Float)
  /-- Calls on the name fail. -/
  | failOn (name : String) (status : Status)
  /-- Calls from the `n`-th on fail. -/
  | failFrom (n : Nat) (status : Status)

namespace Cue

/-- What the cue adds to the queue of a name. -/
def entry? (name : String) : (flavour : Flavour) → Cue → Option (List flavour.Value)
  | .ints, .int other value => if other = name then some [value] else none
  | .reals, .real other value => if other = name then some [value] else none
  | .field, .field other values => if other = name then some values else none
  | _, _ => none

/-- The status with which the cue makes calls on a name fail. -/
def failure? (name : String) : Cue → Option Status
  | .failOn other status => if other = name then some status else none
  | _ => none

/-- The call from which the cue makes all calls fail, and their status. -/
def late? : Cue → Option (Nat × Status)
  | .failFrom n status => some (n, status)
  | _ => none

end Cue

namespace Script

/-- All entries for a name, in the order of the script. -/
def entries (script : List Cue) (flavour : Flavour) (name : String) : List (List flavour.Value) :=
  script.filterMap (Cue.entry? name flavour)

/-- The status with which the `i`-th call, on this name, is to fail.  That all calls fail from some call on
goes before failures of a name. -/
def planned? (script : List Cue) (i : Nat) (name : String) : Option Status :=
  let ofName := (script.filterMap (Cue.failure? name)).getLast?
  match (script.filterMap Cue.late?).getLast? with
  | some (n, status) => if n ≤ i then some status else ofName
  | none => ofName

/-- Does the `i`-th call, on this name, fail by plan? -/
def fails (script : List Cue) (i : Nat) (name : String) : Bool :=
  (planned? script i name).any Status.failed

end Script

namespace ScriptedPeer

/-! ## A peer by its queues and its plan -/

def queues (p : ScriptedPeer) : (flavour : Flavour) → KeyMap (List (List flavour.Value))
  | .ints => p.ints
  | .reals => p.reals
  | .field => p.fields

/-- The entries that wait for receives on a name. -/
def queue (p : ScriptedPeer) (flavour : Flavour) (name : String) : List (List flavour.Value) :=
  ((p.queues flavour).get? name).getD []

/-- The status with which the `i`-th call, on this name, is to fail. -/
def planned? (p : ScriptedPeer) (i : Nat) (name : String) : Option Status :=
  match p.failFrom? with
  | some n => if n ≤ i then some p.failStatus else p.failingNames.get? name
  | none => p.failingNames.get? name

theorem outcome_record (p : ScriptedPeer) (call : Call) (name : String) (count : Status) :
    (p.record call).outcome name count = (p.planned? p.calls.length name).getD count := by
  unfold outcome planned? record
  cases p.failFrom? with
  | none => rfl
  | some n =>
    have counted : (p.calls ++ [call]).length = p.calls.length + 1 := List.length_append
    by_cases late : n ≤ p.calls.length
    · simp [late, counted, Nat.lt_succ_of_le late]
    · simp [late, counted, mt Nat.le_of_lt_succ late]

/-! ## Loading a script -/

def follow (p : ScriptedPeer) : Cue → ScriptedPeer
  | .int name value => p.scriptInt name value
  | .real name value => p.scriptReal name value
  | .field name values => p.scriptField name values
  | .failOn name status => p.failOn name status
  | .failFrom n status => p.failFromCall n status

def ofScript (script : List Cue) : ScriptedPeer := script.foldl follow {}

theorem ofScript_concat (script : List Cue) (cue : Cue) :
    ofScript (script ++ [cue]) = (ofScript script).follow cue :=
  List.foldl_append

theorem get?_enqueue {α : Type} (queues : KeyMap (List α)) (name other : String) (entry : α) :
    ((enqueue queues name entry).get? other).getD [] =
      (queues.get? other).getD [] ++ (if name = other then some entry else none).toList := by
  unfold enqueue
  by_cases same : name = other
  · subst same
    rw [KeyMap.get?_put_self, Option.getD_some, if_pos rfl, Option.toList_some]
  · rw [KeyMap.get?_put_of_ne _ _ same, if_neg same, Option.toList_none, List.append_nil]

theorem queue_follow (p : ScriptedPeer) (cue : Cue) (flavour : Flavour) (name : String) :
    (p.follow cue).queue flavour name = p.queue flavour name ++ (cue.entry? name flavour).toList := by
  cases cue with
  | int other value =>
    cases flavour with
    | ints => exact get?_enqueue p.ints other name [value]
    | reals | field => exact (List.append_nil _).symm
  | real other value =>
    cases flavour with
    | reals => exact get?_enqueue p.reals other name [value]
    | ints | field => exact (List.append_nil _).symm
  | field other values =>
    cases flavour with
    | field => exact get?_enqueue p.fields other name values
    | ints | reals => exact (List.append_nil _).symm
  | failOn | failFrom => cases flavour <;> exact (List.append_nil _).symm

/-- The queues are those of the script. -/
theorem queue_ofScript (script : List Cue) (flavour : Flavour) (name : String) :
    (ofScript script).queue flavour name = Script.entries script flavour name := by
  induction script using List.reverseRecOn with
  | nil => cases flavour <;> rfl
  | append_singleton script cue ih =>
    unfold Script.entries at ih ⊢
    rw [ofScript_concat, queue_follow, ih, List.filterMap_append]
    cases h : cue.entry? name flavour with
    | none => rw [List.filterMap_cons_none h]; rfl
    | some entry => rw [List.filterMap_cons_some h]; rfl

theorem getLast?_filterMap_concat {α β : Type} (f : α → Option β) (as : List α) (a : α) :
    ((as ++ [a]).filterMap f).getLast? = (f a).or (as.filterMap f).getLast? := by
  rw [List.filterMap_append]
  cases h : f a with
  | none => rw [List.filterMap_cons_none h, List.filterMap_nil, List.append_nil, Option.none_or]
  | some b => rw [List.filterMap_cons_some h, List.filterMap_nil, List.getLast?_concat, Option.some_or]

theorem failingNames_follow (p : ScriptedPeer) (cue : Cue) (name : String) :
    (p.follow cue).failingNames.get? name = (cue.failure? name).or (p.failingNames.get? name) := by
  cases cue with
  | failOn other status =>
    show (p.failingNames.put other status).get? name = (if other = name then some status else none).or _
    by_cases same : other = name
    · subst same
      rw [KeyMap.get?_put_self, if_pos rfl, Option.some_or]
    · rw [KeyMap.get?_put_of_ne _ _ same, if_neg same, Option.none_or]
  | _ => rfl

theorem failingNames_ofScript (script : List Cue) (name : String) :
    (ofScript script).failingNames.get? name = (script.filterMap (Cue.failure? name)).getLast? := by
  induction script using List.reverseRecOn with
  | nil => rfl
  | append_singleton script cue ih =>
    rw [ofScript_concat, failingNames_follow, ih, getLast?_filterMap_concat]

/-- From which call on all calls fail, and how. -/
theorem late_ofScript (script : List Cue) :
    ((ofScript script).failFrom?.map fun n => (n, (ofScript script).failStatus)) =
      (script.filterMap Cue.late?).getLast? := by
  induction script using List.reverseRecOn with
  | nil => rfl
  | append_singleton script cue ih =>
    rw [ofScript_concat, getLast?_filterMap_concat, ← ih]
    cases cue with
    | _ => rfl

/-- The plan is that of the script. -/
theorem planned?_ofScript (script : List Cue) (i : Nat) (name : String) :
    (ofScript script).planned? i name = Script.planned? script i name := by
  unfold planned? Script.planned?
  rw [failingNames_ofScript, ← late_ofScript]
  cases (ofScript script).failFrom? <;> rfl

theorem calls_ofScript (script : List Cue) : (ofScript script).calls = [] := by
  induction script using List.reverseRecOn with
  | nil => rfl
  | append_singleton script cue ih =>
    rw [ofScript_concat, ← ih]
    cases cue <;> rfl

end ScriptedPeer

end FluidStructure.Simulation
