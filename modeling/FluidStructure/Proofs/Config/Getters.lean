import FluidStructure.Config.Section

/-!
# What reading a section depends on

A getter looks at the value under its key and at nothing else, but for the name of the section, which
shows in the text of a fault.  So does everything that is read by getters: sections that agree on the
keys give the same, or a fault each, and a fault names one of the keys.
-/

namespace FluidStructure.Config.Section

variable {α β : Type} {keys : List String} {key : String}

/-- The sections have the same values under some keys, or none there. -/
def AgreeOn (keys : List String) (s t : Section) : Prop :=
  ∀ key ∈ keys, s.values.get? key = t.values.get? key

namespace AgreeOn

variable {s t : Section}

theorem symm (agree : AgreeOn keys s t) : AgreeOn keys t s := fun key member =>
  (agree key member).symm

theorem has_eq (agree : AgreeOn keys s t) (member : key ∈ keys) : s.has key = t.has key := by
  unfold has KeyMap.contains
  rw [agree key member]

end AgreeOn

/-- Reading that depends on the values under some keys, and faults only at a value of another type
under one of them. -/
structure Reads (keys : List String) (read : Section → Except Fault α) : Prop where
  transfer : ∀ s t a, AgreeOn keys s t → read s = .ok a → read t = .ok a
  fault : ∀ s fault, read s = .error fault →
    ∃ key ∈ keys, ∃ expected, fault = .valueType s.name key expected

namespace Reads

theorem pure (a : α) : Reads keys fun _ => .ok a where
  transfer _ _ _ _ given := given
  fault _ _ failed := nomatch failed

theorem bind {read : Section → Except Fault α} {next : α → Section → Except Fault β}
    (first : Reads keys read) (later : ∀ a, Reads keys (next a)) :
    Reads keys fun s => read s >>= fun a => next a s where
  transfer s t b agree given := by
    cases here : read s with
    | error fault =>
      rw [here] at given
      cases given
    | ok a =>
      rw [here] at given
      rw [first.transfer s t a agree here]
      exact (later a).transfer s t b agree given
  fault s fault failed := by
    cases here : read s with
    | error other =>
      rw [here] at failed
      cases failed
      exact first.fault s fault here
    | ok a =>
      rw [here] at failed
      exact (later a).fault s fault failed

theorem getWith (member : key ∈ keys) (expected : String) (default : α) (read : Value → Option α) :
    Reads keys fun s => s.getWith key expected default read where
  transfer s t a agree given := by
    unfold Section.getWith at given ⊢
    rw [← agree key member]
    cases found : s.values.get? key with
    | none => simpa [found] using given
    | some value => cases reading : read value <;> simp_all
  fault s fault failed := by
    refine ⟨key, member, expected, ?_⟩
    unfold Section.getWith at failed
    split at failed
    · cases failed
    · split at failed
      · cases failed
      · exact (Except.error.inj failed).symm

theorem getInt (member : key ∈ keys) (default : Int32) : Reads keys fun s => s.getInt key default :=
  getWith member ..

theorem getReal (member : key ∈ keys) (default : Float) : Reads keys fun s => s.getReal key default :=
  getWith member ..

theorem getText (member : key ∈ keys) (default : String) :
    Reads keys fun s => s.getText key default :=
  getWith member ..

end Reads

end FluidStructure.Config.Section
