import FluidStructure.Config.Section

/-!
# Shared sections

A shelf holds section objects that refer to their subsections by number.  A copy of an
object has values of its own but refers to the same subsections, so a later change
inside such a subsection shows through both, while a value or a new subsection of one
does not show in the other.
-/

namespace FluidStructure.Config

/-- A section object: its own values, and the numbers of its subsections. -/
structure Slot where
  name : String
  values : KeyMap Value := []
  children : KeyMap Nat := []

/-- Section objects, numbered from zero. -/
structure Shelf where
  slots : List Slot := []

namespace Shelf

/-- Puts an object on the shelf; it gets the next number. -/
def add (shelf : Shelf) (slot : Slot) : Nat × Shelf :=
  (shelf.slots.length, ⟨shelf.slots ++ [slot]⟩)

/-- The object with a number, an empty one if there is none. -/
def slot (shelf : Shelf) (id : Nat) : Slot := (shelf.slots[id]?).getD ⟨"", [], []⟩

/-- Changes one object. -/
def modify (shelf : Shelf) (id : Nat) (change : Slot → Slot) : Shelf :=
  ⟨shelf.slots.modify id change⟩

/-- Stores a value in an object. -/
def set (shelf : Shelf) (id : Nat) (key : String) (value : Value) : Shelf :=
  shelf.modify id fun s => { s with values := s.values.put key value }

/-- The number of an existing subsection. -/
def find (shelf : Shelf) (id : Nat) (name : String) : Except Fault Nat :=
  match (shelf.slot id).children.get? name with
  | some child => .ok child
  | none => .error (.subsectionMissing name)

/-- The number of a subsection, which is created if there is none. -/
def openChild (shelf : Shelf) (id : Nat) (name : String) : Nat × Shelf :=
  match (shelf.slot id).children.get? name with
  | some child => (child, shelf)
  | none =>
    let (child, shelf) := shelf.add { name }
    (child, shelf.modify id fun s => { s with children := s.children.put name child })

/-- Copies an object. -/
def copy (shelf : Shelf) (id : Nat) : Nat × Shelf := shelf.add (shelf.slot id)

/-- The section that an object stands for, down to a depth. -/
def viewTo (shelf : Shelf) : Nat → Nat → Section
  | 0, id => .node (shelf.slot id).name (shelf.slot id).values []
  | depth + 1, id =>
    let s := shelf.slot id
    .node s.name s.values (s.children.map fun (name, child) => (name, shelf.viewTo depth child))

/-- The section that an object stands for.  No chain of subsections is longer than the
number of objects. -/
def view (shelf : Shelf) (id : Nat) : Section := shelf.viewTo shelf.slots.length id

mutual

/-- Puts a section and all sections below it on the shelf. -/
def load : Section → Shelf → Nat × Shelf
  | .node name values subsections, shelf =>
    let (children, shelf) := loadAll subsections shelf
    shelf.add { name, values, children }

/-- Puts the sections of a list on the shelf. -/
def loadAll : List (String × Section) → Shelf → List (String × Nat) × Shelf
  | [], shelf => ([], shelf)
  | (name, s) :: rest, shelf =>
    let (id, shelf) := load s shelf
    let (ids, shelf) := loadAll rest shelf
    ((name, id) :: ids, shelf)

end

end Shelf

end FluidStructure.Config
