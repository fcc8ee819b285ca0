import FluidStructure.Discovery.Registry
import Mathlib.Algebra.BigOperators.Group.List.Lemmas
import Mathlib.Algebra.BigOperators.Ring.Finset

/-!
# Entering declarations

The list of applications is determined by the declarations: one entry for each that there is, with
the first rank and the number of ranks that make it, in the order of the first ranks.
-/

namespace FluidStructure.Discovery

open FluidStructure.Parallel

variable {ds names : List Declaration} {d e : Declaration}

/-- What an application was declared as. -/
def Application.declaration (a : Application) : Declaration := ⟨a.type, a.name⟩

theorem Application.isDeclaredBy_iff {a : Application} :
    a.isDeclaredBy d = true ↔ a.declaration = d := by
  unfold isDeclaredBy declaration
  rw [Bool.and_eq_true, decide_eq_true_iff, decide_eq_true_iff]
  constructor
  · rintro ⟨type, name⟩
    rw [type, name]
  · rintro rfl
    exact ⟨rfl, rfl⟩

/-! ## Entries -/

/-- The entry of a declaration among those of the ranks: the first that makes it, and how many do. -/
def entryOf (ds : List Declaration) (d : Declaration) : Application :=
  ⟨Int32.ofNat (ds.idxOf d), Int32.ofNat (ds.count d), d.type, d.name⟩

theorem isDeclaredBy_entryOf : (entryOf ds e).isDeclaredBy d = true ↔ e = d :=
  Application.isDeclaredBy_iff

theorem entryOf_other (member : e ∈ ds) (other : e ≠ d) : entryOf (ds ++ [d]) e = entryOf ds e := by
  unfold entryOf
  rw [List.idxOf_append_of_mem member, List.count_append,
    List.count_eq_zero_of_not_mem fun alone => other (List.mem_singleton.1 alone), Nat.add_zero]

theorem entryOf_again (member : d ∈ ds) : entryOf (ds ++ [d]) d = (entryOf ds d).addRank := by
  unfold entryOf Application.addRank
  rw [List.idxOf_append_of_mem member, List.count_append, List.count_singleton_self,
    Int32.ofNat_add]
  rfl

theorem entryOf_first (missing : d ∉ ds) :
    entryOf (ds ++ [d]) d = ⟨Int32.ofNat ds.length, 1, d.type, d.name⟩ := by
  unfold entryOf
  rw [List.idxOf_append_of_notMem missing, List.idxOf_cons_self, List.count_append,
    List.count_singleton_self, List.count_eq_zero_of_not_mem missing]
  rfl

theorem toInt_root_entryOf (few : ds.length < 2 ^ 31) (d : Declaration) :
    (entryOf ds d).root.toInt = ds.idxOf d :=
  Int32.toInt_ofNat_of_lt (Nat.lt_of_le_of_lt List.idxOf_le_length few)

theorem toInt_ranks_entryOf (few : ds.length < 2 ^ 31) (d : Declaration) :
    (entryOf ds d).ranks.toInt = ds.count d :=
  Int32.toInt_ofNat_of_lt (Nat.lt_of_le_of_lt List.count_le_length few)

/-! ## Enrolling one rank -/

theorem enroll_again (nodup : names.Nodup) (known : ∀ e ∈ names, e ∈ ds) (member : d ∈ names)
    (rank : Nat) :
    enroll d rank (names.map (entryOf ds)) = names.map (entryOf (ds ++ [d])) := by
  induction names with
  | nil => cases member
  | cons e names ih =>
    obtain ⟨fresh, nodup⟩ := List.nodup_cons.1 nodup
    obtain ⟨there, known⟩ := List.forall_mem_cons.1 known
    unfold enroll
    simp only [List.map_cons]
    by_cases same : e = d
    · subst same
      rw [if_pos (isDeclaredBy_entryOf.2 rfl), entryOf_again there]
      congr 1
      refine List.map_congr_left fun x later => (entryOf_other (known x later) ?_).symm
      exact fun same => fresh (same ▸ later)
    · rw [if_neg fun declared => same (isDeclaredBy_entryOf.1 declared), entryOf_other there same,
        ih nodup known ((List.mem_cons.1 member).resolve_left fun equal => same equal.symm)]

theorem enroll_first {apps : List Application} (missing : ∀ a ∈ apps, a.declaration ≠ d)
    (rank : Nat) : enroll d rank apps = apps ++ [⟨Int32.ofNat rank, 1, d.type, d.name⟩] := by
  induction apps with
  | nil => rfl
  | cons a apps ih =>
    obtain ⟨other, missing⟩ := List.forall_mem_cons.1 missing
    unfold enroll
    rw [if_neg fun declared => other (Application.isDeclaredBy_iff.1 declared), ih missing]
    rfl

/-! ## Rosters -/

/-- All declarations that there are, in the order of the ranks that make them first. -/
structure Roster (ds names : List Declaration) : Prop where
  mem : ∀ d, d ∈ names ↔ d ∈ ds
  rising : names.Pairwise fun d e => ds.idxOf d < ds.idxOf e

namespace Roster

theorem nodup (roster : Roster ds names) : names.Nodup := by
  refine roster.rising.imp ?_
  rintro d _ less rfl
  exact Nat.lt_irrefl _ less

/-- One more rank enrols. -/
theorem enroll (roster : Roster ds names) (d : Declaration) :
    ∃ names', Roster (ds ++ [d]) names' ∧
      Discovery.enroll d ds.length (names.map (entryOf ds)) = names'.map (entryOf (ds ++ [d])) := by
  have kept : names.Pairwise fun e f => (ds ++ [d]).idxOf e < (ds ++ [d]).idxOf f := by
    refine roster.rising.imp_of_mem fun first second less => ?_
    rw [List.idxOf_append_of_mem ((roster.mem _).1 first),
      List.idxOf_append_of_mem ((roster.mem _).1 second)]
    exact less
  by_cases member : d ∈ names
  · refine ⟨names, ⟨fun e => ?_, kept⟩,
      enroll_again roster.nodup (fun e listed => (roster.mem e).1 listed) member _⟩
    rw [List.mem_append, List.mem_singleton, ← roster.mem]
    exact ⟨.inl, fun known => known.elim id fun same => same ▸ member⟩
  · have missing : d ∉ ds := fun known => member ((roster.mem d).2 known)
    refine ⟨names ++ [d], ⟨fun e => ?_, ?_⟩, ?_⟩
    · rw [List.mem_append, List.mem_append, roster.mem]
    · refine List.pairwise_append.2 ⟨kept, List.pairwise_singleton _ _, fun e listed f last => ?_⟩
      rw [List.mem_singleton.1 last, List.idxOf_append_of_mem ((roster.mem e).1 listed),
        List.idxOf_append_of_notMem missing, List.idxOf_cons_self]
      exact List.idxOf_lt_length_iff.2 ((roster.mem e).1 listed)
    · have others : ∀ a ∈ names.map (entryOf ds), a.declaration ≠ d :=
        List.forall_mem_map.2 fun e listed same => member (same ▸ listed : d ∈ names)
      rw [enroll_first others, List.map_append, List.map_singleton, entryOf_first missing]
      congr 1
      refine List.map_congr_left fun e listed => (entryOf_other ((roster.mem e).1 listed) ?_).symm
      exact fun same => member (same ▸ listed)

theorem enrollFrom (roster : Roster ds names) (later : List Declaration) :
    ∃ names', Roster (ds ++ later) names' ∧
      Discovery.enrollFrom ds.length (names.map (entryOf ds)) later =
        names'.map (entryOf (ds ++ later)) := by
  induction later generalizing ds names with
  | nil => exact ⟨names, by rwa [List.append_nil], by rw [List.append_nil]; rfl⟩
  | cons d later ih =>
    obtain ⟨names', enrolled, entered⟩ := roster.enroll d
    obtain ⟨all, complete, on⟩ := ih enrolled
    rw [List.append_assoc, List.singleton_append] at complete on
    refine ⟨all, complete, ?_⟩
    rw [Discovery.enrollFrom, entered, ← on, List.length_append]
    rfl

/-- Every rank is counted once. -/
theorem sum_ranks (roster : Roster ds names) (few : ds.length < 2 ^ 31) :
    ((names.map (entryOf ds)).map fun a => a.ranks.toInt).sum = ds.length := by
  have same : names.Perm ds.dedup :=
    (List.perm_ext_iff_of_nodup roster.nodup ds.nodup_dedup).2 fun d => by
      rw [roster.mem, List.mem_dedup]
  have counts : (names.map (entryOf ds)).map (fun a => a.ranks.toInt) =
      (names.map fun d => ds.count d).map Nat.cast := by
    rw [List.map_map, List.map_map]
    exact List.map_congr_left fun d _ => toInt_ranks_entryOf few d
  rw [counts, ← Nat.cast_list_sum, (same.map _).sum_eq, List.sum_map_count_dedup_eq_length]

end Roster

/-- The list of applications is a roster with the entries. -/
theorem applications_eq (ds : List Declaration) :
    ∃ names, Roster ds names ∧ applications ds = names.map (entryOf ds) :=
  Roster.enrollFrom ⟨fun _ => Iff.rfl, .nil⟩ ds

/-- An application is found at the place of its declaration. -/
theorem placeOf_entries (ds names : List Declaration) (d : Declaration) :
    placeOf (names.map (entryOf ds)) d = names.idxOf d := by
  unfold placeOf List.idxOf
  rw [List.findIdx_map]
  congr 1
  funext e
  rw [Function.comp_apply, Bool.eq_iff_iff, Application.isDeclaredBy_iff, beq_iff_eq]
  rfl

end FluidStructure.Discovery
