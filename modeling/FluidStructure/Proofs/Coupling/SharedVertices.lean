import FluidStructure.Proofs.Coupling.Attachment
import FluidStructure.Proofs.Coupling.Silence
import FluidStructure.Proofs.Surface.Vertices
import Mathlib.Algebra.BigOperators.Ring.Finset
import Mathlib.Data.Set.Card

/-!
# Vertices that several ranks share

Each rank makes an interface of its faces and registers it.  A vertex that several ranks have is
counted by its owner only, and on each rank once, so that the sum over the group is the number of
vertices that there are.
-/

namespace FluidStructure

namespace Surface.Portion

/-- No more faces and vertices than an array can have. -/
def Small (p : Portion) : Prop :=
  p.faceIds.length < 2 ^ 63 ∧ p.connectivity.vertices.length < 2 ^ 63

variable {n : Nat} {portions : Fin n → Portion}

/-- If each vertex has one owner among the ranks that have it, the ranks together count it once. -/
theorem sum_owned {ids : Fin n → List UInt64} (nodup : ∀ r, (ids r).Nodup)
    (listed : ∀ r v, v ∈ ids r ↔ (portions r).Lists v)
    (shared : ∀ v, (∃ r, (portions r).Lists v) → ∃! r, (portions r).Lists v ∧ (portions r).Owns v) :
    ∑ r, (ids r).countP (marks (portions r).owned) = {v | ∃ r, (portions r).Lists v}.ncard := by
  let counted (r : Fin n) : Finset UInt64 := ((ids r).filter (marks (portions r).owned)).toFinset
  have mem_counted r v : v ∈ counted r ↔ (portions r).Lists v ∧ (portions r).Owns v := by
    simp only [counted, List.mem_toFinset, List.mem_filter, listed]
    rfl
  have apart : (Set.univ : Set (Fin n)).PairwiseDisjoint counted := by
    refine fun r _ q _ other => Finset.disjoint_left.2 fun v here there => other ?_
    rw [mem_counted] at here there
    exact (shared v ⟨r, here.1⟩).unique here there
  have all : {v | ∃ r, (portions r).Lists v} = (Finset.univ.biUnion counted : Finset UInt64) := by
    ext v
    simp only [Set.mem_ofPred_eq, Finset.coe_biUnion, Set.mem_iUnion, Finset.mem_coe, mem_counted,
      Finset.mem_univ, exists_prop, true_and]
    exact ⟨fun there => (shared v there).exists, fun ⟨r, here, _⟩ => ⟨r, here⟩⟩
  rw [all, Set.ncard_coe_finset, Finset.card_biUnion (by rwa [Finset.coe_univ])]
  refine Finset.sum_congr rfl fun r _ => ?_
  rw [List.toFinset_card_of_nodup ((nodup r).filter _), List.countP_eq_length_filter]

end Surface.Portion

/-- What a rank hands in to the sums. -/
def Surface.tally (surface : Surface) : List Int64 :=
  [Int64.ofNat surface.faceCount, Int64.ofNat surface.ownedVertices]

namespace Coupling

open Surface

/-- Makes the interface of a portion and registers it. -/
def Session.attachPortion (place : Parallel.Place) (p : Portion) (length : Float) :
    Act Coupling Session Unit := do
  Session.register place (← Act.ofExcept p.surface) length

variable {n : Nat}

/-- The group sums counts exactly: all ranks get what the integers that the ranks hand in come to. -/
def Summed (logs : Fin n → Log Coupling) : Prop :=
  ∀ r own reply, (⟨.sumCounts own, reply⟩ : Exchange Coupling) ∈ logs r →
    ∃ (counts : Fin n → List Int64) (sums : List Int64),
      (∀ q, ∃ reply, (⟨.sumCounts (counts q), reply⟩ : Exchange Coupling) ∈ logs q) ∧
      reply = .ok sums ∧
      ∀ i < own.length, (sums[i]?.getD 0).toInt = ∑ q, ((counts q)[i]?.getD 0).toInt

/-- A rank takes part in one sum, with its own counts. -/
theorem counts_of_registration {place : Parallel.Place} {surface : Surface} {length : Float}
    {s t : Session} {log : Log Coupling} {result : Except Fault Unit}
    (check : s.checkRegistration length = .ok ())
    (registration : Session.Registration place surface length s log result t)
    {own : List Int64} {reply : Except Fault (List Int64)}
    (member : (⟨.sumCounts own, reply⟩ : Exchange Coupling) ∈ log) :
    own = surface.tally := by
  cases registration with
  | refused fault refused =>
    rw [refused] at check
    cases check
  | unsummed fault =>
    cases List.mem_singleton.1 member
    rfl
  | attached counts =>
    rcases List.mem_cons.1 member with same | noted
    · cases same
      rfl
    · split at noted
      · cases List.mem_singleton.1 noted
      · cases noted

section Group

variable {surfaces : Fin n → Surface} {places : Fin n → Parallel.Place} {lengths : Fin n → Float}
  {s t : Fin n → Session} {logs : Fin n → Log Coupling} {results : Fin n → Except Fault Unit}

/-- Every rank gets the sums of what the ranks count. -/
theorem registered_of_summed
    (checks : ∀ r, (s r).checkRegistration (lengths r) = .ok ())
    (registrations : ∀ r, Session.Registration (places r) (surfaces r) (lengths r) (s r) (logs r)
      (results r) (t r))
    (summed : Summed logs) (r : Fin n) :
    results r = .ok () ∧
      (t r).globalFaces.toInt = ∑ q, (Int64.ofNat (surfaces q).faceCount).toInt ∧
      (t r).globalVertices.toInt = ∑ q, (Int64.ofNat (surfaces q).ownedVertices).toInt := by
  have sums := summed r
  have registration := registrations r
  generalize logs r = log at sums registration
  generalize results r = result at registration ⊢
  generalize t r = after at registration ⊢
  cases registration with
  | refused fault refused =>
    rw [checks r] at refused
    cases refused
  | unsummed fault =>
    obtain ⟨_, _, -, wrong, -⟩ := sums _ _ List.mem_cons_self
    cases wrong
  | attached totals =>
    obtain ⟨counts, _, handed, same, added⟩ := sums _ _ List.mem_cons_self
    obtain rfl := Except.ok.inj same
    have own : counts = fun q => (surfaces q).tally := by
      funext q
      obtain ⟨reply, member⟩ := handed q
      exact counts_of_registration (checks q) (registrations q) member
    rw [own] at added
    have first : totals.headD 0 = totals[0]?.getD 0 := by cases totals <;> rfl
    refine ⟨rfl, ?_, added 1 (by simp)⟩
    change (totals.headD 0).toInt = _
    rw [first]
    exact added 0 (by simp)

end Group

/-- Every rank makes an interface of its portion and registers it with a session that has none, and
the group sums the counts exactly.  If each vertex that some ranks have is owned by exactly one of
them, all sessions know the number of vertices, each counted once, and the number of faces. -/
theorem sharedVertices_countedOnce {portions : Fin n → Portion} {places : Fin n → Parallel.Place}
    {lengths : Fin n → Float} {s t : Fin n → Session} {logs : Fin n → Log Coupling}
    {results : Fin n → Except Fault Unit} (sound : ∀ r, (portions r).Sound)
    (small : ∀ r, (portions r).Small)
    (shared : ∀ v, (∃ r, (portions r).Lists v) → ∃! r, (portions r).Lists v ∧ (portions r).Owns v)
    (checks : ∀ r, (s r).checkRegistration (lengths r) = .ok ())
    (runs : ∀ r, (Session.attachPortion (places r) (portions r) (lengths r)).Runs (s r) (logs r)
      (results r) (t r))
    (summed : Summed logs) (r : Fin n) :
    results r = .ok () ∧
      (t r).globalVertices.toInt = {v | ∃ q, (portions q).Lists v}.ncard ∧
      (t r).globalFaces.toInt = ∑ q, (portions q).faceIds.length := by
  choose surfaces made faces nodup listed owned using fun q => Portion.surface_ok (sound q)
  have registrations q : Session.Registration (places q) (surfaces q) (lengths q) (s q) (logs q)
      (results q) (t q) := by
    have run := runs q
    unfold Session.attachPortion at run
    rw [made q] at run
    exact Controller.runs_registration run
  obtain ⟨done, totalFaces, totalVertices⟩ := registered_of_summed checks registrations summed r
  have faceCount q : (Int64.ofNat (surfaces q).faceCount).toInt = (portions q).faceIds.length := by
    unfold Surface.faceCount
    rw [faces q, Int64.toInt_ofNat_of_lt (small q).1]
  have ownedCount q : (Int64.ofNat (surfaces q).ownedVertices).toInt =
      ((surfaces q).vertexIds.countP (marks (portions q).owned) : Nat) := by
    have within : (surfaces q).vertexIds ⊆ (portions q).connectivity.vertices := by
      intro v member
      obtain ⟨face, -, lists⟩ := (listed q v).1 member
      exact lists.mem
    have bound := ((nodup q).subperm within).length_le
    rw [owned q, Int64.toInt_ofNat_of_lt (Nat.lt_of_le_of_lt List.countP_le_length
      (Nat.lt_of_le_of_lt bound (small q).2))]
  refine ⟨done, ?_, ?_⟩
  · rw [totalVertices, ← Portion.sum_owned nodup listed shared, Nat.cast_sum]
    exact Finset.sum_congr rfl fun q _ => ownedCount q
  · rw [totalFaces]
    push_cast
    exact Finset.sum_congr rfl fun q _ => faceCount q

namespace TwoPortions

/-- The left rank has two faces, the right one has a third.  Vertex 2 belongs to the right one. -/
def portions : Fin 2 → Portion
  | 0 => ⟨[0, 1], ⟨[0, 2, 4], [0, 1, 1, 2]⟩, [true, true, false]⟩
  | 1 => ⟨[0], ⟨[0, 2], [2, 3]⟩, [false, false, true, true]⟩

def surfaces : Fin 2 → Surface
  | 0 => ⟨[0, 1], [0, 1, 2], 2⟩
  | 1 => ⟨[0], [2, 3], 2⟩

theorem surface_portions (r : Fin 2) : (portions r).surface = .ok (surfaces r) := by
  have listed : ∀ r, (portions r).connectivity.verticesOfAll (portions r).faceIds =
      .ok (portions r).connectivity.vertices
    | 0 => rfl
    | 1 => rfl
  have sorted : ∀ r, sortedSet (portions r).connectivity.vertices = (surfaces r).vertexIds
    | 0 => sortedSet_eq (by decide) (by simp [portions, surfaces])
    | 1 => sortedSet_eq (by decide) (fun _ => Iff.rfl)
  unfold Portion.surface ofFaces
  rw [listed]
  dsimp only
  rw [sorted]
  match r with
  | 0 => rfl
  | 1 => rfl

theorem sound_portions (r : Fin 2) : (portions r).Sound where
  filled := by revert r; decide
  covers face member := by
    have covered : ∀ r, (portions r).faceIds.all
        (fun face => (portions r).connectivity.Covers face) = true := by
      decide
    exact of_decide_eq_true (List.all_eq_true.1 (covered r) face member)
  masked := by revert r; decide
  room v := by
    rintro ⟨face, -, lists⟩
    have inside : ∀ r, (portions r).connectivity.vertices.all
        (fun v => v.toNat < (portions r).owned.length) = true := by
      decide
    exact of_decide_eq_true (List.all_eq_true.1 (inside r) v lists.mem)

theorem lists_portions (r : Fin 2) (v : UInt64) :
    (portions r).Lists v ↔ v ∈ (surfaces r).vertexIds := by
  obtain ⟨surface, made, -, -, listed, -⟩ := Portion.surface_ok (sound_portions r)
  obtain rfl := Except.ok.inj ((surface_portions r).symm.trans made)
  exact (listed v).symm

theorem shared_portions (v : UInt64) (there : ∃ r, (portions r).Lists v) :
    ∃! r, (portions r).Lists v ∧ (portions r).Owns v := by
  have owner : ∀ r, (surfaces r).vertexIds.all (fun v =>
      ∃ q, (v ∈ (surfaces q).vertexIds ∧ marks (portions q).owned v = true) ∧
        ∀ other, v ∈ (surfaces other).vertexIds ∧ marks (portions other).owned v = true →
          other = q) = true := by
    decide
  obtain ⟨r, lists⟩ := there
  simp only [lists_portions] at lists ⊢
  obtain ⟨q, owns, only⟩ := of_decide_eq_true (List.all_eq_true.1 (owner r) v lists)
  exact ⟨q, owns, only⟩

/-- All sums come to three faces and four vertices. -/
def reply : (request : Request) → request.Reply
  | .sumCounts _ => .ok [3, 4]
  | request => Controller.echo Channel.Status.ok request

def places : Fin 2 → Parallel.Place
  | 0 => { rank := 0, size := 2 }
  | 1 => { rank := 1, size := 2 }

def attached (r : Fin 2) : Log Coupling × Except Fault Unit × Session :=
  (Session.attachPortion (places r) (portions r) 0.5 (Session.new { verbosity := 0 } {})).follow
    reply

theorem attached_eq (r : Fin 2) : attached r =
    ([⟨.sumCounts (surfaces r).tally, .ok [3, 4]⟩], .ok (),
      (Session.new { verbosity := 0 } {}).attach (surfaces r) 0.5 3 4) := by
  unfold attached Session.attachPortion
  rw [surface_portions]
  match r with
  | 0 => rfl
  | 1 => rfl

theorem summed_attached : Summed fun r => (attached r).1 := by
  have added : ∀ r, ∀ i < (surfaces r).tally.length,
      (([3, 4] : List Int64)[i]?.getD 0).toInt = ∑ q, ((surfaces q).tally[i]?.getD 0).toInt := by
    decide
  intro r own reply member
  dsimp only at member ⊢
  rw [attached_eq] at member
  cases List.mem_singleton.1 member
  refine ⟨fun q => (surfaces q).tally, [3, 4], fun q => ⟨.ok [3, 4], ?_⟩, rfl, added r⟩
  rw [attached_eq]
  exact List.mem_cons_self

/-- Three faces, and the four vertices that they have. -/
theorem sharedVertices_countedOnce_four :
    {v | ∃ q, (portions q).Lists v}.ncard = 4 ∧
    ∀ r, (attached r).2.1 = .ok () ∧ (attached r).2.2.globalVertices.toInt = 4 ∧
      (attached r).2.2.globalFaces.toInt = ∑ q, (portions q).faceIds.length := by
  have small : ∀ r, (portions r).Small := by
    unfold Portion.Small
    decide
  have runs r : (Session.attachPortion (places r) (portions r) 0.5).Runs
      (Session.new { verbosity := 0 } {}) (attached r).1 (attached r).2.1 (attached r).2.2 :=
    Act.runs_follow (I := Coupling) reply _ _
  have counted := sharedVertices_countedOnce sound_portions small shared_portions (fun _ => rfl) runs
    summed_attached
  have four r : (attached r).2.2.globalVertices.toInt = 4 := by
    rw [attached_eq]
    rfl
  refine ⟨?_, fun r => ⟨(counted r).1, four r, (counted r).2.2⟩⟩
  have all := (counted 0).2.1
  rw [four] at all
  exact_mod_cast all.symm

end TwoPortions

end Coupling

end FluidStructure
