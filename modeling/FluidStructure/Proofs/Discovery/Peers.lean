import FluidStructure.Proofs.Discovery.World
import Mathlib.Data.Finset.Card

/-!
# Which application is the peer

The matches are the applications at another place whose type starts with the wanted one.  What is
found depends on how many they are, and, if there is one only, on which one it is.  In a registry
every application is listed once, so the one at another place is one that the rank has not declared.
-/

namespace FluidStructure.Discovery

open FluidStructure.Parallel FluidStructure.Text

/-- The places other than the own one of which the type starts with the wanted one. -/
def candidates (apps : List Application) (self : Int) (wanted : String) :
    Finset (Fin apps.length) :=
  Finset.univ.filter fun i => (i : Int) ≠ self ∧ wanted.toList <+: apps[i].type.text.toList

variable {apps apps' ms ns : List Application} {self self' : Int} {wanted : String}

/-! ## Matches -/

theorem mem_candidates {i : Fin apps.length} :
    i ∈ candidates apps self wanted ↔
      (i : Int) ≠ self ∧ wanted.toList <+: apps[i].type.text.toList := by
  unfold candidates
  rw [Finset.mem_filter, and_iff_right (Finset.mem_univ i)]

/-- The places of the matches, in their order. -/
def places (apps : List Application) (self : Int) (wanted : String) : List (Fin apps.length) :=
  (List.finRange apps.length).filter fun i => i ∈ candidates apps self wanted

theorem nodup_places : (places apps self wanted).Nodup := (List.nodup_finRange _).filter _

theorem mem_places {i : Fin apps.length} :
    i ∈ places apps self wanted ↔ i ∈ candidates apps self wanted := by
  unfold places
  rw [List.mem_filter, and_iff_right (List.mem_finRange i), decide_eq_true_iff]

theorem length_places : (places apps self wanted).length = (candidates apps self wanted).card := by
  rw [← List.toFinset_card_of_nodup nodup_places]
  congr 1
  ext i
  rw [List.mem_toFinset, mem_places]

theorem matching_eq :
    matching apps self wanted = (places apps self wanted).map fun i => apps[i] := by
  have indexed : apps.zipIdx =
      (List.finRange apps.length).map fun i : Fin apps.length => (apps[i], (i : Nat)) :=
    List.ext_getElem (by simp) fun i _ _ => by
      rw [List.getElem_zipIdx, List.getElem_map, List.getElem_finRange]
      simp
  unfold matching places
  rw [indexed, List.filter_map, List.map_map]
  congr 1
  refine List.filter_congr fun i _ => ?_
  rw [Bool.eq_iff_iff, Function.comp_apply, decide_eq_true_iff, decide_eq_true_iff, mem_candidates]
  exact and_congr_right fun _ => List.isPrefixOf_iff_prefix

theorem length_matching (apps : List Application) (self : Int) (wanted : String) :
    (matching apps self wanted).length = (candidates apps self wanted).card := by
  rw [matching_eq, List.length_map, length_places]

theorem matching_single {i : Fin apps.length} (alone : candidates apps self wanted = {i}) :
    matching apps self wanted = [apps[i]] := by
  have only : places apps self wanted = [i] := by
    rw [← List.perm_singleton]
    refine (List.perm_ext_iff_of_nodup nodup_places (List.nodup_singleton i)).2 fun j => ?_
    rw [mem_places, alone, Finset.mem_singleton, List.mem_singleton]
  rw [matching_eq, only]
  rfl

/-- If the list is reordered, so are the matches. -/
theorem matching_perm (σ : Fin apps.length ≃ Fin apps'.length)
    (moved : ∀ i, apps'[σ i] = apps[i])
    (own : ∀ i : Fin apps.length, (i : Int) = self ↔ (σ i : Int) = self') :
    (matching apps' self' wanted).Perm (matching apps self wanted) := by
  have same : (places apps' self' wanted).Perm ((places apps self wanted).map σ) := by
    refine (List.perm_ext_iff_of_nodup nodup_places
      ((List.nodup_map_iff σ.injective).2 nodup_places)).2 fun j => ?_
    obtain ⟨i, rfl⟩ := σ.surjective j
    rw [List.mem_map_of_injective σ.injective, mem_places, mem_places, mem_candidates,
      mem_candidates, moved]
    exact and_congr_left' (not_congr (own i)).symm
  rw [matching_eq, matching_eq]
  refine (same.map _).trans (List.Perm.of_eq ?_)
  rw [List.map_map]
  exact List.map_congr_left fun i _ => moved i

/-! ## Findings -/

namespace Finding

theorem ofMatches_several (several : 1 < ms.length) :
    ofMatches ms = ⟨.ambiguousPeers, .none, ms.length⟩ := by
  match ms with
  | _ :: _ :: _ => rfl

/-- It does not matter in which order the matches come. -/
theorem ofMatches_perm (same : ms.Perm ns) : ofMatches ms = ofMatches ns := by
  have size := same.length_eq
  match ms, ns with
  | [], [] => rfl
  | [a], ns =>
    obtain rfl := List.perm_singleton.1 same.symm
    rfl
  | _ :: _ :: _, _ :: _ :: _ => exact congrArg (mk .ambiguousPeers .none) size

/-- What is reported changes nothing. -/
theorem runs_settle {σ : Type} {s t : σ} {log : Log Parallel} {result : Except Fault Peer}
    (f : Finding) (wanted : String) :
    (f.settle wanted : Act Parallel σ Peer).Runs s log result t ↔
      log = noted (f.notice? wanted).toList ∧ result = f.resolve wanted ∧ t = s := by
  unfold settle
  cases f.notice? wanted with
  | none => exact Act.runs_ofExcept
  | some notice =>
    constructor
    · intro run
      obtain ⟨_, later, rfl, onward⟩ := Act.runs_perform_bind.1 run
      obtain ⟨rfl, rfl, rfl⟩ := Act.runs_ofExcept.1 onward
      exact ⟨rfl, rfl, rfl⟩
    · rintro ⟨rfl, rfl, rfl⟩
      exact Act.runs_perform_bind.2 ⟨(), _, rfl, Act.runs_ofExcept.2 ⟨rfl, rfl, rfl⟩⟩

end Finding

/-! ## Outcomes -/

/-- No candidate, one, or more: what is found, and what comes of it. -/
inductive Matched (apps : List Application) (self : Int) (wanted : String) : Prop
  | missing (nobody : candidates apps self wanted = ∅)
      (found : find apps self wanted = ⟨.noPeer, .none, 0⟩)
  | single (i : Fin apps.length) (alone : candidates apps self wanted = {i})
      (found : find apps self wanted = ⟨.singlePeer, apps[i].asPeer, 1⟩)
  | several (more : 1 < (candidates apps self wanted).card)
      (found : find apps self wanted =
        ⟨.ambiguousPeers, .none, (candidates apps self wanted).card⟩)

theorem matched (apps : List Application) (self : Int) (wanted : String) :
    Matched apps self wanted := by
  have size := length_matching apps self wanted
  rcases Nat.lt_trichotomy (candidates apps self wanted).card 1 with none | one | more
  · rw [Nat.lt_one_iff.1 none, List.length_eq_zero_iff] at size
    exact .missing (Finset.card_eq_zero.1 (Nat.lt_one_iff.1 none)) (congrArg Finding.ofMatches size)
  · obtain ⟨i, alone⟩ := Finset.card_eq_one.1 one
    exact .single i alone (congrArg Finding.ofMatches (matching_single alone))
  · refine .several more ?_
    unfold find
    rw [← size] at more ⊢
    exact Finding.ofMatches_several more

theorem Matched.of_single (h : Matched apps self wanted)
    (single : (find apps self wanted).outcome = .singlePeer) :
    ∃ i, candidates apps self wanted = {i} ∧
      find apps self wanted = ⟨.singlePeer, apps[i].asPeer, 1⟩ := by
  cases h with
  | missing _ found =>
    rw [found] at single
    cases single
  | single i alone found => exact ⟨i, alone, found⟩
  | several _ found =>
    rw [found] at single
    cases single

/-- A session runs dry exactly if there is no candidate. -/
theorem resolve_dry_iff (rooted : ∀ a ∈ apps, 0 ≤ a.root.toInt) :
    (∃ p, (find apps self wanted).resolve wanted = .ok p ∧ p.root = -1) ↔
      candidates apps self wanted = ∅ := by
  cases matched apps self wanted with
  | missing nobody found =>
    rw [found]
    exact ⟨fun _ => nobody, fun _ => ⟨.none, rfl, rfl⟩⟩
  | single i alone found =>
    rw [found, alone]
    refine ⟨?_, fun wrong => absurd wrong (Finset.singleton_ne_empty i)⟩
    rintro ⟨p, same, negative⟩
    obtain rfl := Except.ok.inj same
    have positive := rooted apps[i] (List.getElem_mem i.isLt)
    change apps[i].root = -1 at negative
    rw [negative] at positive
    exact absurd positive (by decide)
  | several more found =>
    rw [found]
    refine ⟨?_, fun nobody => ?_⟩
    · rintro ⟨_, same, -⟩
      cases same
    · rw [nobody] at more
      cases more

/-- Several candidates are refused, and nothing else is. -/
theorem resolve_error_iff {fault : Fault} :
    (find apps self wanted).resolve wanted = .error fault ↔
      1 < (candidates apps self wanted).card ∧
        fault = .ambiguousPeers (candidates apps self wanted).card wanted := by
  cases matched apps self wanted with
  | missing nobody found =>
    rw [found, nobody]
    refine ⟨(nomatch ·), fun several => absurd several.1 ?_⟩
    simp
  | single i alone found =>
    rw [found, alone]
    refine ⟨(nomatch ·), fun several => absurd several.1 ?_⟩
    simp
  | several more found =>
    rw [found]
    exact ⟨fun refused => ⟨more, (Except.error.inj refused).symm⟩, fun same => by rw [same.2]; rfl⟩

/-! ## Registries -/

section Registries

variable {n : Nat} {σ : Type} {declared : Fin n → Declaration} {logs : Fin n → Log Parallel}
  {results : Fin n → Except Fault Registry} {s t : Fin n → σ} {registry : Registry} {r : Fin n}

/-- The peer is the application of a rank, and not that of the own rank. -/
structure Foreign (declared : Fin n → Declaration) (r : Fin n) (peer : Peer) : Prop where
  rooted : ∃ q : Fin n, peer.root.toInt = q ∧
    Declaration.unpack (declared q).pack = ⟨peer.type, peer.name⟩
  other : Declaration.unpack (declared r).pack ≠ ⟨peer.type, peer.name⟩

/-- A registry that has been built is read off the records of all ranks. -/
theorem registry_of_convened (few : n < 2 ^ 31)
    (runs : ∀ r, (Registry.build (declared r)).Runs (s r) (logs r) (results r) (t r))
    (convened : Convened logs) (built : results r = .ok registry) :
    registry = ⟨applications (heard declared),
      Int32.ofNat (placeOf (applications (heard declared)) (.unpack (declared r).pack))⟩ := by
  have rank := convened.rank r
  have size := convened.size r
  have handed := @records_of_convened _ _ _ _ _ _ _ runs convened r (declared r).pack
  obtain ⟨building, -⟩ := Registry.runs_build (runs r)
  rw [built] at building
  generalize logs r = log at *
  cases building with
  | built rank' size' records =>
    obtain rfl := Except.ok.inj (rank (.ok rank') (by simp [Registry.gathering]))
    obtain rfl := Except.ok.inj (size (.ok size') (by simp [Registry.gathering]))
    rw [@handed records (by simp [Registry.gathering]), reading_heard few]

/-- The peer in a registry is an application that another rank has declared, and the own rank has
not. -/
theorem registry_peer (few : n < 2 ^ 31)
    (runs : ∀ r, (Registry.build (declared r)).Runs (s r) (logs r) (results r) (t r))
    (convened : Convened logs) (built : results r = .ok registry) (wanted : String) :
    ∃ (place : Nat) (own : Application), registry.self.toInt = place ∧
      registry.applications[place]? = some own ∧
      own.declaration = .unpack (declared r).pack ∧
      ((find registry.applications registry.self.toInt wanted).outcome = .singlePeer →
        Foreign declared r (find registry.applications registry.self.toInt wanted).peer) := by
  obtain ⟨names, roster, listed⟩ := applications_eq (heard declared)
  have length : (heard declared).length = n := List.length_ofFn
  have known : .unpack (declared r).pack ∈ names := (roster.mem _).2 (List.mem_ofFn.2 ⟨r, rfl⟩)
  have inside := List.idxOf_lt_length_iff.2 known
  have size : names.length ≤ n := by
    rw [← length]
    exact (roster.nodup.subperm fun d => (roster.mem d).1).length_le
  have self : (Int32.ofNat (names.idxOf (.unpack (declared r).pack))).toInt =
      names.idxOf (.unpack (declared r).pack) :=
    Int32.toInt_ofNat_of_lt (Nat.lt_trans (Nat.lt_of_lt_of_le inside size) few)
  rw [registry_of_convened few runs convened built, listed, placeOf_entries]
  dsimp only
  rw [self]
  refine ⟨_, entryOf (heard declared) (.unpack (declared r).pack), rfl, ?_, rfl, fun single => ?_⟩
  · rw [List.getElem?_map, List.getElem?_eq_getElem inside, List.getElem_idxOf]
    rfl
  · -- entries at different places have different declarations
    obtain ⟨i, alone, found⟩ := (matched _ _ _).of_single single
    have elsewhere := (mem_candidates.1 (alone ▸ Finset.mem_singleton_self i)).1
    have bound : (i : Nat) < names.length := by simpa using i.isLt
    have entry : (names.map (entryOf (heard declared)))[i] =
        entryOf (heard declared) names[(i : Nat)] := List.getElem_map _
    obtain ⟨q, place, least⟩ := isLeast_idxOf ((roster.mem _).1 (List.getElem_mem bound))
    have declares : Declaration.unpack (declared q).pack = names[(i : Nat)] := least.1
    rw [found, entry]
    refine ⟨⟨q, ?_, declares⟩, fun same => ?_⟩
    · exact (toInt_root_entryOf (length.trans_lt few) _).trans (congrArg Nat.cast place)
    · change Declaration.unpack (declared r).pack = names[(i : Nat)] at same
      exact elsewhere (by rw [same, roster.nodup.idxOf_getElem])

end Registries

/-- What is found and resolved is determined by the candidates.  Without one there is no peer, one
is the peer, and more are refused.  The order of the applications does not matter, and in a registry
the peer is never the application of the own rank. -/
theorem peers_matched {apps : List Application} (rooted : ∀ a ∈ apps, 0 ≤ a.root.toInt) (self : Int)
    (wanted : String) :
    (find apps self wanted).count = (candidates apps self wanted).card ∧
    ((∃ p, (find apps self wanted).resolve wanted = .ok p ∧ p.root = -1) ↔
      candidates apps self wanted = ∅) ∧
    (∀ i, candidates apps self wanted = {i} →
      (find apps self wanted).resolve wanted = .ok ⟨apps[i].root, apps[i].type, apps[i].name⟩) ∧
    ((∃ fault, (find apps self wanted).resolve wanted = .error fault) ↔
      1 < (candidates apps self wanted).card) ∧
    (∀ fault, (find apps self wanted).resolve wanted = .error fault →
      fault.kind = .configuration ∧
        fault = .ambiguousPeers (candidates apps self wanted).card wanted) ∧
    (∀ {σ : Type} {s t : σ} {log : Log Parallel} {result : Except Fault Peer},
      ((find apps self wanted).settle wanted : Act Parallel σ Peer).Runs s log result t ↔
        log = noted ((find apps self wanted).notice? wanted).toList ∧
          result = (find apps self wanted).resolve wanted ∧ t = s) ∧
    (∀ (apps' : List Application) (self' : Int) (σ : Fin apps.length ≃ Fin apps'.length),
      (∀ i, apps'[σ i] = apps[i]) →
      (∀ i : Fin apps.length, (i : Int) = self ↔ (σ i : Int) = self') →
      find apps' self' wanted = find apps self wanted) ∧
    (∀ {n : Nat} {σ : Type} {declared : Fin n → Declaration} {logs : Fin n → Log Parallel}
      {results : Fin n → Except Fault Registry} {s t : Fin n → σ} {registry : Registry} {r : Fin n},
      n < 2 ^ 31 →
      (∀ r, (Registry.build (declared r)).Runs (s r) (logs r) (results r) (t r)) →
      Convened logs → results r = .ok registry →
      ∃ (place : Nat) (own : Application), registry.self.toInt = place ∧
        registry.applications[place]? = some own ∧
        own.declaration = .unpack (declared r).pack ∧
        ((find registry.applications registry.self.toInt wanted).outcome = .singlePeer →
          Foreign declared r (find registry.applications registry.self.toInt wanted).peer)) ∧
    (∀ bytes, wanted.toList <+: (Label.ofBytes bytes).text.toList ↔
      (wanted : Label).bytes <+: bytes) := by
  have counted : (find apps self wanted).count = (candidates apps self wanted).card := by
    cases matched apps self wanted with
    | missing nobody found => rw [found, nobody, Finset.card_empty]
    | single i alone found => rw [found, alone, Finset.card_singleton]
    | several more found => rw [found]
  refine ⟨counted, resolve_dry_iff rooted, fun i alone => ?_, ?_, fun fault refused => ?_,
    Finding.runs_settle _ wanted,
    fun apps' self' σ moved own => Finding.ofMatches_perm (matching_perm σ moved own),
    fun few runs convened built => registry_peer few runs convened built wanted,
    fun bytes => Label.prefix_ofBytes_iff⟩
  · unfold find
    rw [matching_single alone]
    rfl
  · exact ⟨fun ⟨_, refused⟩ => (resolve_error_iff.1 refused).1,
      fun more => ⟨_, resolve_error_iff.2 ⟨more, rfl⟩⟩⟩
  · obtain ⟨-, rfl⟩ := resolve_error_iff.1 refused
    exact ⟨rfl, rfl⟩

namespace FourRanks

/-- The registry of rank 0. -/
def registry : Registry := worldRegistry declared 0

/-- Rank 0 is coupled with the application of rank 3. -/
theorem peers_matched_fourRanks :
    (∀ a ∈ registry.applications, 0 ≤ a.root.toInt) ∧
      (find registry.applications registry.self.toInt "ab").resolve "ab" = .ok ⟨3, "ab", "d"⟩ ∧
      Foreign declared 0 (find registry.applications registry.self.toInt "ab").peer := by
  have rooted : ∀ a ∈ registry.applications, 0 ≤ a.root.toInt := by decide +kernel
  have alone : candidates registry.applications registry.self.toInt "ab" =
      {⟨2, by decide +kernel⟩} := by decide +kernel
  obtain ⟨-, -, one, -, -, -, -, world, -⟩ := peers_matched rooted registry.self.toInt "ab"
  have resolved := one _ alone
  obtain ⟨_, _, -, -, -, another⟩ := world (σ := Unit) (r := 0) (by decide)
    (fun r => Registry.runs_built (short_of_plain (plain r)) _ _ _ ()) (convened_world declared) rfl
  exact ⟨rooted, resolved, another (by decide +kernel)⟩

end FourRanks

end FluidStructure.Discovery
