import FluidStructure.Simulation.ScriptedPeer
import Mathlib.Logic.Basic

/-!
# Queues of entries

The entries of a queue are given away one after the other, each to a buffer that it fits, and the last one
again and again.  A buffer that the next entry does not fit leaves the queue as it is.
-/

namespace FluidStructure.Simulation

open FluidStructure.Channel

/-! ## Entries in turn -/

section Queue

variable {α : Type} {exact : Bool} {queue : List (List α)} {k : Nat} {entry buffer : List α}

/-- The entry that follows `k` others; the last one stays. -/
def entryAfter? (queue : List (List α)) (k : Nat) : Option (List α) :=
  queue[min k (queue.length - 1)]?

/-- The buffer has room for the entry, and no more than that where sizes must be exact. -/
def Fits (exact : Bool) (entry buffer : List α) : Prop :=
  entry.length ≤ buffer.length ∧ (exact → entry.length = buffer.length)

instance : Decidable (Fits exact entry buffer) := inferInstanceAs (Decidable (_ ∧ _))

/-- The buffer gets the entry that follows `k` others. -/
def gets (exact : Bool) (queue : List (List α)) (k : Nat) (buffer : List α) : Bool :=
  (entryAfter? queue k).any fun entry => Fits exact entry buffer

/-- How many of some buffers get an entry, one after the other. -/
def served (exact : Bool) (queue buffers : List (List α)) : Nat :=
  buffers.foldl (fun k buffer => if gets exact queue k buffer then k + 1 else k) 0

/-- What is left of a queue after `k` entries were used; the last one stays. -/
def leftAfter (queue : List (List α)) (k : Nat) : List (List α) :=
  queue.drop (min k (queue.length - 1))

theorem head?_leftAfter (queue : List (List α)) (k : Nat) :
    (leftAfter queue k).head? = entryAfter? queue k := List.head?_drop

theorem leftAfter_zero (queue : List (List α)) : leftAfter queue 0 = queue := by
  unfold leftAfter
  rw [Nat.zero_min, List.drop_zero]

theorem leftAfter_succ {later : List (List α)} (left : leftAfter queue k = entry :: later) :
    leftAfter queue (k + 1) = if later = [] then entry :: later else later := by
  have size := congrArg List.length left
  unfold leftAfter at left size ⊢
  rw [List.length_drop, List.length_cons] at size
  by_cases last : later = []
  · -- the entry is the last one of the queue
    have same : min (k + 1) (queue.length - 1) = min k (queue.length - 1) := by
      rw [last, List.length_nil] at size
      omega
    rw [if_pos last, same, left]
  · have some := List.length_pos_iff.2 last
    have next : min (k + 1) (queue.length - 1) = min k (queue.length - 1) + 1 := by omega
    rw [if_neg last, next, ← List.tail_drop, left, List.tail_cons]

end Queue

/-! ## Delivery -/

namespace ScriptedPeer

section Deliver

variable {α : Type} {queues : KeyMap (List (List α))} {name : String} {entry buffer : List α}
  {later : List (List α)} {exact : Bool}

theorem not_fits_iff : buffer.length < entry.length ∨ (exact ∧ entry.length ≠ buffer.length) ↔
    ¬ Fits exact entry buffer := by
  unfold Fits
  rw [Classical.not_and_iff_not_or_not, Nat.not_le, Classical.not_imp]

/-- Only the queue of the name can change. -/
theorem get?_deliver_other {other : String} (apart : name ≠ other) :
    (deliver queues name buffer exact).2.2.get? other = queues.get? other := by
  unfold deliver
  split
  · split
    · rfl
    · dsimp only
      split
      · rfl
      · exact KeyMap.get?_put_of_ne _ _ apart
  · rfl

theorem deliver_fits (waiting : (queues.get? name).getD [] = entry :: later)
    (fits : Fits exact entry buffer) :
    ∃ rest, deliver queues name buffer exact =
        (Int32.ofNat entry.length, entry ++ buffer.drop entry.length, rest) ∧
      (rest.get? name).getD [] = if later = [] then entry :: later else later := by
  have found : queues.get? name = some (entry :: later) := by
    cases h : queues.get? name with
    | none => simp [h] at waiting
    | some queue => rw [h] at waiting; exact congrArg some waiting
  unfold deliver
  rw [found]
  dsimp only
  rw [if_neg (mt not_fits_iff.1 (not_not_intro fits))]
  refine ⟨_, rfl, ?_⟩
  by_cases last : later = []
  · rw [if_pos (List.isEmpty_iff.2 last), if_pos last, found, Option.getD_some]
  · rw [if_neg (mt List.isEmpty_iff.1 last), if_neg last, KeyMap.get?_put_self, Option.getD_some]

theorem deliver_refused
    (refused : ∀ entry, ((queues.get? name).getD []).head? = some entry → ¬ Fits exact entry buffer) :
    deliver queues name buffer exact = (Status.protocolError, buffer, queues) := by
  unfold deliver
  split
  · rename_i values later found
    have unfit : ¬ Fits exact values buffer := refused values (by rw [found]; rfl)
    rw [if_pos (not_fits_iff.2 unfit)]
  · rfl

end Deliver

end ScriptedPeer

end FluidStructure.Simulation
