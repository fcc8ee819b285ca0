import FluidStructure.Proofs.Discovery.Building
import FluidStructure.Proofs.Discovery.Enrolment
import FluidStructure.Proofs.Discovery.Records
import Mathlib.Data.Fintype.Card
import Mathlib.Order.Bounds.Basic

/-!
# One registry for all ranks

All ranks of a launch build their registries together: each hands in its record and gets the records
of all.  Then all have one list of applications, with each pair of type and name that is declared,
and the communicators that they ask for are those of the applications.
-/

namespace FluidStructure.Discovery

open FluidStructure.Parallel

variable {n : Nat} {σ : Type}

/-- Bytes of type and name. -/
def Application.pair (a : Application) : List UInt8 × List UInt8 := a.declaration.pair

/-- Colors and keys with which a rank asks for a part of the world. -/
def splits (log : Log Parallel) : List (Int32 × Int32) :=
  log.filterMap fun e =>
    match e.request with
    | .split .world color key => some (color, key)
    | _ => none

/-- The ranks of a world have gathered: each was told its rank and the number of ranks, what it
declared came to all of them in rank order, and its split went through. -/
structure Convened (logs : Fin n → Log Parallel) : Prop where
  rank : ∀ r reply, (⟨.rank .world, reply⟩ : Exchange Parallel) ∈ logs r →
    reply = .ok (Int32.ofNat r)
  size : ∀ r reply, (⟨.size .world, reply⟩ : Exchange Parallel) ∈ logs r →
    reply = .ok (Int32.ofNat n)
  declare : ∀ r own reply, (⟨.declare .world own, reply⟩ : Exchange Parallel) ∈ logs r →
    ∃ records : Fin n → List UInt8,
      (∀ q, ∃ reply, (⟨.declare .world (records q), reply⟩ : Exchange Parallel) ∈ logs q) ∧
      reply = .ok (List.ofFn records).flatten
  split : ∀ r color key reply, (⟨.split .world color key, reply⟩ : Exchange Parallel) ∈ logs r →
    reply = .ok ()

/-! ## Each rank's part -/

section Ranks

variable {declared : Fin n → Declaration} {logs : Fin n → Log Parallel}
  {results : Fin n → Except Fault Registry} {s t : Fin n → σ}

theorem splits_noted (notices : List Journal.Notice) : splits (noted notices) = [] := by
  refine List.filterMap_eq_nil_iff.2 fun e member => ?_
  obtain ⟨_, -, rfl⟩ := List.mem_map.1 member
  rfl

theorem short_of_plain {d : Declaration} (plain : d.Plain) :
    ¬ (maxNameBytes < d.type.byteSize ∨ maxNameBytes < d.name.byteSize) := by
  rw [← Text.Label.length_bytes, ← Text.Label.length_bytes]
  exact not_or.2 ⟨Nat.not_lt.2 (Nat.le_of_lt_succ plain.1.2),
    Nat.not_lt.2 (Nat.le_of_lt_succ plain.2.2)⟩

/-- Nothing fails where all have gathered. -/
theorem built_of_convened (plain : ∀ r, (declared r).Plain)
    (runs : ∀ r, (Registry.build (declared r)).Runs (s r) (logs r) (results r) (t r))
    (convened : Convened logs) (r : Fin n) :
    ∃ records, (⟨.declare .world (declared r).pack, .ok records⟩ : Exchange Parallel) ∈ logs r ∧
      splits (logs r) =
        [((Registry.reading (declared r) (Int32.ofNat r) (Int32.ofNat n) records).self,
          Int32.ofNat r)] ∧
      results r = .ok (Registry.reading (declared r) (Int32.ofNat r) (Int32.ofNat n) records) := by
  have rank := convened.rank r
  have size := convened.size r
  have declare := convened.declare r
  have split := convened.split r
  obtain ⟨building, -⟩ := Registry.runs_build (runs r)
  generalize logs r = log at *
  generalize results r = result at *
  cases building with
  | tooLong long => exact absurd long (short_of_plain (plain r))
  | noRank code => cases rank (.error code) (by simp)
  | noSize _ code => cases size (.error code) (by simp)
  | undeclared _ _ code =>
    obtain ⟨_, -, wrong⟩ := declare (declared r).pack (.error code) (by simp)
    cases wrong
  | unsplit rank' size' records code =>
    cases split (Registry.reading (declared r) rank' size' records).self rank' (.error code) (by simp)
  | built rank' size' records =>
    obtain rfl := Except.ok.inj (rank (.ok rank') (by simp [Registry.gathering]))
    obtain rfl := Except.ok.inj (size (.ok size') (by simp [Registry.gathering]))
    exact ⟨records, by simp [Registry.gathering], congrArg (List.cons _) (splits_noted _), rfl⟩

/-- All records come to all ranks. -/
theorem records_of_convened
    (runs : ∀ r, (Registry.build (declared r)).Runs (s r) (logs r) (results r) (t r))
    (convened : Convened logs) {r : Fin n} {own records : List UInt8}
    (handed : (⟨.declare .world own, .ok records⟩ : Exchange Parallel) ∈ logs r) :
    records = (List.ofFn fun q => (declared q).pack).flatten := by
  obtain ⟨all, each, gathered⟩ := convened.declare r _ _ handed
  have packs : all = fun q => (declared q).pack := by
    funext q
    obtain ⟨reply, member⟩ := each q
    exact (Registry.runs_build (runs q)).1.declares member
  rw [Except.ok.inj gathered, packs]

/-- What is read of the records. -/
def heard (declared : Fin n → Declaration) : List Declaration :=
  List.ofFn fun r => .unpack (declared r).pack

theorem reading_heard (few : n < 2 ^ 31) (declared : Fin n → Declaration) (r : Fin n) :
    Registry.reading (declared r) (Int32.ofNat r) (Int32.ofNat n)
        (List.ofFn fun q => (declared q).pack).flatten =
      ⟨applications (heard declared),
        Int32.ofNat (placeOf (applications (heard declared)) (.unpack (declared r).pack))⟩ := by
  have records : (List.ofFn fun q => (declared q).pack).flatten =
      (List.ofFn declared).flatMap Declaration.pack := by
    rw [List.flatMap_def, List.map_ofFn]
    rfl
  have read : Declaration.unpackAll n ((List.ofFn declared).flatMap Declaration.pack) =
      heard declared := by
    have all := Declaration.unpackAll_packs (List.ofFn declared)
    rw [List.length_ofFn, List.map_ofFn] at all
    exact all
  have own : (heard declared)[(r : Nat)]? = some (.unpack (declared r).pack) := by
    rw [heard, List.getElem?_ofFn, dif_pos r.isLt]
  unfold Registry.reading
  dsimp only
  rw [records, Int32.toNatClampNeg_ofNat_of_lt few, read,
    Int32.toNatClampNeg_ofNat_of_lt (Nat.lt_trans r.isLt few), own]
  rfl

/-- What is read if every record can be read back. -/
def told (declared : Fin n → Declaration) : List Declaration :=
  List.ofFn fun r => .ofPair (declared r).pair

/-- All ranks read the same list, and each finds its own place in it. -/
theorem results_of_convened (few : n < 2 ^ 31) (plain : ∀ r, (declared r).Plain)
    (runs : ∀ r, (Registry.build (declared r)).Runs (s r) (logs r) (results r) (t r))
    (convened : Convened logs) (r : Fin n) :
    results r = .ok ⟨applications (told declared),
        Int32.ofNat (placeOf (applications (told declared)) (.ofPair (declared r).pair))⟩ ∧
      splits (logs r) =
        [(Int32.ofNat (placeOf (applications (told declared)) (.ofPair (declared r).pair)),
          Int32.ofNat r)] := by
  have same : heard declared = told declared :=
    congrArg List.ofFn (funext fun q => Declaration.unpack_pack (plain q))
  obtain ⟨records, handed, parted, result⟩ := built_of_convened plain runs convened r
  rw [records_of_convened runs convened handed, reading_heard few, same,
    Declaration.unpack_pack (plain r)] at parted result
  exact ⟨result, parted⟩

end Ranks

/-! ## Entries and ranks -/

section Entries

variable {α : Type} [DecidableEq α] {f : Fin n → α} {x : α}

theorem count_ofFn (f : Fin n → α) (x : α) :
    (List.ofFn f).count x = (Finset.univ.filter fun r => f r = x).card := by
  rw [List.ofFn_eq_map, List.count_eq_countP, List.countP_map, List.countP_eq_length_filter]
  rfl

/-- The first place of a value is the least rank that has it. -/
theorem isLeast_idxOf (member : x ∈ List.ofFn f) :
    ∃ root : Fin n, (List.ofFn f).idxOf x = root ∧ IsLeast {r | f r = x} root := by
  have inside := List.idxOf_lt_length_iff.2 member
  have bound : (List.ofFn f).idxOf x < n := by
    rw [List.length_ofFn] at inside
    exact inside
  refine ⟨⟨(List.ofFn f).idxOf x, bound⟩, rfl, ?_, fun r same => ?_⟩
  · have found := List.getElem_idxOf inside
    rw [List.getElem_ofFn] at found
    exact found
  · refine Nat.le_of_not_lt fun before => ?_
    have other := List.not_of_lt_findIdx before
    rw [List.getElem_ofFn] at other
    exact absurd same (by simpa using other)

end Entries

section Registries

variable {declared : Fin n → Declaration} {names : List Declaration} {d : Declaration}

/-- What is read of a declaration has the bytes of what was declared. -/
theorem pair_of_mem_told (member : d ∈ told declared) : ∃ r, (declared r).pair = d.pair ∧
    d = .ofPair (declared r).pair := by
  obtain ⟨r, rfl⟩ := List.mem_ofFn.1 member
  exact ⟨r, (Declaration.pair_ofPair _).symm, rfl⟩

theorem ofPair_eq_iff (member : d ∈ told declared) (r : Fin n) :
    Declaration.ofPair (declared r).pair = d ↔ (declared r).pair = d.pair := by
  obtain ⟨q, same, rfl⟩ := pair_of_mem_told member
  rw [Declaration.ofPair_inj, Declaration.pair_ofPair]

theorem length_told (declared : Fin n → Declaration) : (told declared).length = n :=
  List.length_ofFn

/-- The entry of a declaration: the least rank that makes it, and how many do. -/
theorem entry_told (few : n < 2 ^ 31) (member : d ∈ told declared) :
    ∃ root : Fin n, (entryOf (told declared) d).root.toInt = root ∧
      IsLeast {r | (declared r).pair = d.pair} root ∧
      (entryOf (told declared) d).ranks.toInt =
        (Finset.univ.filter fun r => (declared r).pair = d.pair).card := by
  rw [← length_told declared] at few
  obtain ⟨root, place, least⟩ := isLeast_idxOf member
  refine ⟨root, ?_, ?_, ?_⟩
  · rw [toInt_root_entryOf few]
    exact congrArg _ place
  · rwa [← Set.ext fun r => ofPair_eq_iff member r]
  · rw [toInt_ranks_entryOf few, ← Finset.filter_congr fun r _ => ofPair_eq_iff member r]
    exact congrArg _ (count_ofFn _ _)

end Registries

/-- All ranks of a world build their registries.  All get one list of applications: it has each pair
that is declared once, with the lowest rank that declares it and the number of ranks that do, in the
order of the lowest ranks, and no rank is left out.  Each rank finds its own application in the list,
and asks for the communicator of the ranks with its pair, the lowest of which is the root. -/
theorem registries_agree {declared : Fin n → Declaration} {logs : Fin n → Log Parallel}
    {results : Fin n → Except Fault Registry} {s t : Fin n → σ} (few : n < 2 ^ 31)
    (plain : ∀ r, (declared r).Plain)
    (runs : ∀ r, (Registry.build (declared r)).Runs (s r) (logs r) (results r) (t r))
    (convened : Convened logs) :
    ∃ (apps : List Application) (color : Fin n → Int32),
      (∀ r, results r = .ok ⟨apps, color r⟩ ∧ splits (logs r) = [(color r, Int32.ofNat r)] ∧
        ∃ (place : Nat) (a : Application) (root : Fin n), (color r).toInt = place ∧
          apps[place]? = some a ∧ a.pair = (declared r).pair ∧
          a.root.toInt = root ∧ IsLeast {q | color q = color r} root) ∧
      (∀ r q, color r = color q ↔ (declared r).pair = (declared q).pair) ∧
      (apps.map Application.pair).Nodup ∧
      (∀ a ∈ apps, ∃ root : Fin n, a.root.toInt = root ∧
        IsLeast {r | (declared r).pair = a.pair} root ∧
        a.ranks.toInt = (Finset.univ.filter fun r => (declared r).pair = a.pair).card) ∧
      (apps.Pairwise fun a b => a.root < b.root) ∧
      (apps.map fun a => a.ranks.toInt).sum = n := by
  obtain ⟨names, roster, listed⟩ := applications_eq (told declared)
  have few' : (told declared).length < 2 ^ 31 := by rwa [length_told]
  have member r : Declaration.ofPair (declared r).pair ∈ told declared := List.mem_ofFn.2 ⟨r, rfl⟩
  have entered {d} (known : d ∈ names) := entry_told few ((roster.mem d).1 known)
  have size : names.length ≤ n := by
    have less := (roster.nodup.subperm fun d => (roster.mem d).1).length_le
    rwa [length_told] at less
  let place (r : Fin n) : Nat := names.idxOf (.ofPair (declared r).pair)
  have inside r : place r < names.length := List.idxOf_lt_length_iff.2 ((roster.mem _).2 (member r))
  have small r : place r < 2 ^ 31 := Nat.lt_trans (Nat.lt_of_lt_of_le (inside r) size) few
  have found r : names[place r]? = some (.ofPair (declared r).pair) := by
    rw [List.getElem?_eq_getElem (inside r), List.getElem_idxOf]
  have colors r q : Int32.ofNat (place r) = Int32.ofNat (place q) ↔
      (declared r).pair = (declared q).pair := by
    rw [← Int32.toInt_inj, Int32.toInt_ofNat_of_lt (small r), Int32.toInt_ofNat_of_lt (small q),
      Int.ofNat_inj, List.idxOf_inj ((roster.mem _).2 (member r)), Declaration.ofPair_inj]
  refine ⟨names.map (entryOf (told declared)), fun r => Int32.ofNat (place r), fun r => ?_, colors,
    ?_, ?_, ?_, ?_⟩
  · obtain ⟨result, parted⟩ := results_of_convened few plain runs convened r
    rw [listed, placeOf_entries] at result parted
    refine ⟨result, parted, ?_⟩
    obtain ⟨root, first, least, -⟩ := entered ((roster.mem _).2 (member r))
    refine ⟨place r, entryOf (told declared) (.ofPair (declared r).pair), root,
      Int32.toInt_ofNat_of_lt (small r), by rw [List.getElem?_map, found r]; rfl,
      Declaration.pair_ofPair _, first, ?_⟩
    rw [Declaration.pair_ofPair] at least
    rwa [show {q | Int32.ofNat (place q) = Int32.ofNat (place r)} =
      {q | (declared q).pair = (declared r).pair} from Set.ext fun q => colors q r]
  · rw [List.map_map]
    refine roster.nodup.map_on fun d known e known' same => ?_
    obtain ⟨_, -, rfl⟩ := pair_of_mem_told ((roster.mem d).1 known)
    obtain ⟨_, -, rfl⟩ := pair_of_mem_told ((roster.mem e).1 known')
    rw [Declaration.ofPair_inj]
    change (Declaration.ofPair _).pair = (Declaration.ofPair _).pair at same
    rwa [Declaration.pair_ofPair, Declaration.pair_ofPair] at same
  · exact List.forall_mem_map.2 fun d known => entered known
  · rw [List.pairwise_map]
    refine roster.rising.imp fun less => ?_
    rw [Int32.lt_iff_toInt_lt, toInt_root_entryOf few', toInt_root_entryOf few']
    exact Int.ofNat_lt.2 less
  · rw [roster.sum_ranks few', length_told]

/-! ## Worlds -/

/-- The registry that a rank of a world reads. -/
def worldRegistry (declared : Fin n → Declaration) (r : Fin n) : Registry :=
  .reading (declared r) (Int32.ofNat r) (Int32.ofNat n)
    (List.ofFn fun q => (declared q).pack).flatten

/-- The log of a rank of a world in which nothing fails. -/
def worldLog (declared : Fin n → Declaration) (r : Fin n) : Log Parallel :=
  Registry.gathering (declared r) (Int32.ofNat r) (Int32.ofNat n)
      (List.ofFn fun q => (declared q).pack).flatten ++
    ⟨.split .world (worldRegistry declared r).self (Int32.ofNat r), .ok ()⟩ ::
      noted (Registry.reports (Int32.ofNat r) (worldRegistry declared r))

theorem convened_world (declared : Fin n → Declaration) : Convened (worldLog declared) where
  rank r reply member := by simpa [worldLog, Registry.gathering, noted] using member
  size r reply member := by simpa [worldLog, Registry.gathering, noted] using member
  declare r own reply member := by
    have handed : own = (declared r).pack ∧
        reply ≍ Except.ok (ε := Code) (List.ofFn fun q => (declared q).pack).flatten := by
      simpa [worldLog, Registry.gathering, noted] using member
    obtain ⟨rfl, same⟩ := handed
    exact ⟨fun q => (declared q).pack,
      fun q => ⟨.ok (List.ofFn fun p => (declared p).pack).flatten, by
        simp [worldLog, Registry.gathering]⟩, eq_of_heq same⟩
  split r color key reply member := by
    cases reply with
    | ok => rfl
    | error code => simp [worldLog, Registry.gathering, noted] at member

namespace FourRanks

/-- Two ranks of one application, and two others that share the type or the concatenation. -/
def declared : Fin 4 → Declaration
  | 1 => ⟨"a", "bc"⟩
  | 3 => ⟨"ab", "d"⟩
  | _ => ⟨"ab", "c"⟩

theorem plain : ∀ r, (declared r).Plain := by decide

/-- Ranks 0 and 2 are in one application, the others in applications of their own. -/
theorem registries_agree_interleaved : ∃ (apps : List Application) (color : Fin 4 → Int32),
    (∀ r, worldRegistry declared r = ⟨apps, color r⟩) ∧
    color 0 = color 2 ∧ color 0 ≠ color 1 ∧ color 0 ≠ color 3 ∧ color 1 ≠ color 3 ∧
    (apps.map fun a => a.ranks.toInt).sum = 4 := by
  obtain ⟨apps, color, read, colors, -, -, -, total⟩ :=
    registries_agree (σ := Unit) (by decide) plain
      (fun r => Registry.runs_built (short_of_plain (plain r)) _ _ _ ()) (convened_world declared)
  refine ⟨apps, color, fun r => Except.ok.inj (read r).1, (colors 0 2).2 rfl, ?_, ?_, ?_, total⟩
  · exact fun same => absurd ((colors 0 1).1 same) (by decide)
  · exact fun same => absurd ((colors 0 3).1 same) (by decide)
  · exact fun same => absurd ((colors 1 3).1 same) (by decide)

end FourRanks

end FluidStructure.Discovery
