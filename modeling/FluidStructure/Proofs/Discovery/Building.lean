import FluidStructure.Discovery.Registry
import FluidStructure.Proofs.Runs

/-!
# What the building of a registry does

A rank learns its place, hands in its record and gets those of all ranks, and asks for a
communicator.  Each of these steps can fail, and ends the building then.
-/

namespace FluidStructure

open FluidStructure.Journal FluidStructure.Parallel

namespace Parallel

variable {σ α β : Type} {s t : σ} {log : Log Parallel}

theorem runs_checked_bind {operation : String} {outcome : Except Code α}
    {f : α → Act Parallel σ β} {result : Except Fault β} :
    (checked operation outcome >>= f).Runs s log result t ↔
      (∃ value, outcome = .ok value ∧ (f value).Runs s log result t) ∨
      ∃ code, outcome = .error code ∧ log = [] ∧
        result = .error (.messagePassing operation code) ∧ t = s := by
  cases outcome with
  | ok value =>
    refine ⟨fun run => .inl ⟨value, rfl, run⟩, ?_⟩
    rintro (⟨_, same, run⟩ | ⟨_, wrong, -⟩)
    · exact Except.ok.inj same ▸ run
    · cases wrong
  | error code =>
    refine ⟨fun run => .inr ⟨code, rfl, ?_⟩, ?_⟩
    · obtain ⟨rfl, same⟩ := Program.runs_done.1 run
      obtain ⟨rfl, rfl⟩ := Prod.mk.inj same
      exact ⟨rfl, rfl, rfl⟩
    · rintro (⟨_, wrong, -⟩ | ⟨_, same, rfl, rfl, rfl⟩)
      · cases wrong
      · rw [← Except.error.inj same]
        exact Program.runs_done.2 ⟨rfl, rfl⟩

/-- The log of some notices. -/
def noted (notices : List Notice) : Log Parallel := notices.map fun notice => ⟨.note notice, ()⟩

end Parallel

namespace Discovery.Registry

variable {σ : Type} {s t : σ} {log : Log Parallel}

/-- The registry that a rank reads off the records of all ranks. -/
def reading (own : Declaration) (rank size : Int32) (records : List UInt8) : Registry :=
  let ds := Declaration.unpackAll size.toNatClampNeg records
  let apps := Discovery.applications ds
  ⟨apps, Int32.ofNat (placeOf apps ((ds[rank.toNatClampNeg]?).getD own))⟩

/-- What rank 0 reports about a registry. -/
def reports (rank : Int32) (registry : Registry) : List Notice :=
  if rank = 0 then
    .applicationsFound registry.applications.length ::
      registry.applications.map applicationNotice
  else []

/-- The log up to the records. -/
def gathering (own : Declaration) (rank size : Int32) (records : List UInt8) : Log Parallel :=
  [⟨.rank .world, .ok rank⟩, ⟨.size .world, .ok size⟩, ⟨.declare .world own.pack, .ok records⟩]

/-- What becomes of the building: its log and its outcome. -/
inductive Building (own : Declaration) : Log Parallel → Except Fault Registry → Prop
  | tooLong (long : maxNameBytes < own.type.byteSize ∨ maxNameBytes < own.name.byteSize) :
    Building own [] (.error (.applicationNameTooLong maxNameBytes))
  | noRank (code : Code) :
    Building own [⟨.rank .world, .error code⟩] (.error (.messagePassing "MPI_Comm_rank" code))
  | noSize (rank : Int32) (code : Code) :
    Building own [⟨.rank .world, .ok rank⟩, ⟨.size .world, .error code⟩]
      (.error (.messagePassing "MPI_Comm_size" code))
  | undeclared (rank size : Int32) (code : Code) :
    Building own
      [⟨.rank .world, .ok rank⟩, ⟨.size .world, .ok size⟩,
        ⟨.declare .world own.pack, .error code⟩]
      (.error (.messagePassing "MPI_Allgather" code))
  | unsplit (rank size : Int32) (records : List UInt8) (code : Code) :
    Building own
      (gathering own rank size records ++
        [⟨.split .world (reading own rank size records).self rank, .error code⟩])
      (.error (.messagePassing "MPI_Comm_split" code))
  | built (rank size : Int32) (records : List UInt8) :
    Building own
      (gathering own rank size records ++
        ⟨.split .world (reading own rank size records).self rank, .ok ()⟩ ::
          noted (reports rank (reading own rank size records)))
      (.ok (reading own rank size records))

/-- A rank hands in its own record only. -/
theorem Building.declares {own : Declaration} {result : Except Fault Registry} {handed : List UInt8}
    {reply : Except Code (List UInt8)} (building : Building own log result)
    (member : (⟨.declare .world handed, reply⟩ : Exchange Parallel) ∈ log) :
    handed = own.pack := by
  cases building with
  | tooLong | noRank | noSize => simp at member
  | undeclared rank size code =>
    have same : handed = own.pack ∧ reply ≍ Except.error (α := List UInt8) code := by
      simpa using member
    exact same.1
  | unsplit rank size records code =>
    have same : handed = own.pack ∧ reply ≍ Except.ok (ε := Code) records := by
      simpa [gathering] using member
    exact same.1
  | built rank size records =>
    have same : handed = own.pack ∧ reply ≍ Except.ok (ε := Code) records := by
      simpa [gathering, noted] using member
    exact same.1

theorem runs_reportAll {apps : List Application} {result : Except Fault Unit} :
    (reportAll apps : Act Parallel σ Unit).Runs s log result t ↔
      log = noted (apps.map applicationNotice) ∧ result = .ok () ∧ t = s := by
  induction apps generalizing log with
  | nil => exact Act.runs_pure
  | cons a rest ih =>
    constructor
    · intro run
      obtain ⟨_, later, rfl, onward⟩ := Act.runs_perform_bind.1 run
      obtain ⟨rfl, rfl, rfl⟩ := ih.1 onward
      exact ⟨rfl, rfl, rfl⟩
    · rintro ⟨rfl, rfl, rfl⟩
      exact Act.runs_perform_bind.2 ⟨(), _, rfl, ih.2 ⟨rfl, rfl, rfl⟩⟩

theorem runs_build {own : Declaration} {result : Except Fault Registry}
    (run : (build own).Runs s log result t) : Building own log result ∧ t = s := by
  unfold build at run
  split at run
  · rename_i long
    obtain ⟨rfl, rfl, rfl⟩ := Act.runs_fail.1 run
    exact ⟨.tooLong long, rfl⟩
  obtain ⟨_, _, rfl, ranking⟩ := Act.runs_perform_bind.1 run
  rcases runs_checked_bind.1 ranking with ⟨rank, rfl, ranked⟩ | ⟨code, rfl, rfl, rfl, rfl⟩
  case inr => exact ⟨.noRank code, rfl⟩
  obtain ⟨_, _, rfl, sizing⟩ := Act.runs_perform_bind.1 ranked
  rcases runs_checked_bind.1 sizing with ⟨size, rfl, sized⟩ | ⟨code, rfl, rfl, rfl, rfl⟩
  case inr => exact ⟨.noSize rank code, rfl⟩
  obtain ⟨_, _, rfl, declaring⟩ := Act.runs_perform_bind.1 sized
  rcases runs_checked_bind.1 declaring with ⟨records, rfl, declared⟩ | ⟨code, rfl, rfl, rfl, rfl⟩
  case inr => exact ⟨.undeclared rank size code, rfl⟩
  obtain ⟨_, rest, rfl, splitting⟩ := Act.runs_perform_bind.1 declared
  rcases runs_checked_bind.1 splitting with ⟨_, rfl, reporting⟩ | ⟨code, rfl, rfl, rfl, rfl⟩
  case inr => exact ⟨.unsplit rank size records code, rfl⟩
  have reported : rest = noted (reports rank (reading own rank size records)) ∧
      result = .ok (reading own rank size records) ∧ t = s := by
    unfold reports
    dsimp only at reporting
    split at reporting
    · rename_i root
      rw [if_pos root]
      obtain ⟨_, later, rfl, listing⟩ := Act.runs_perform_bind.1 reporting
      obtain ⟨_, listed, rfl⟩ := Act.runs_bind_pure.1 listing
      obtain ⟨rfl, rfl, rfl⟩ := runs_reportAll.1 listed
      exact ⟨rfl, rfl, rfl⟩
    · rename_i other
      rw [if_neg other]
      exact Act.runs_pure.1 reporting
  obtain ⟨rfl, rfl, rfl⟩ := reported
  exact ⟨.built rank size records, rfl⟩

/-- Nothing but the surroundings and the length of the names stands in the way. -/
theorem runs_built {own : Declaration}
    (fits : ¬ (maxNameBytes < own.type.byteSize ∨ maxNameBytes < own.name.byteSize))
    (rank size : Int32) (records : List UInt8) (s : σ) :
    (build own).Runs s
      (gathering own rank size records ++
        ⟨.split .world (reading own rank size records).self rank, .ok ()⟩ ::
          noted (reports rank (reading own rank size records)))
      (.ok (reading own rank size records)) s := by
  unfold build
  rw [if_neg fits]
  refine Act.runs_perform_bind.2 ⟨.ok rank, _, rfl, runs_checked_bind.2 (.inl ⟨rank, rfl, ?_⟩)⟩
  refine Act.runs_perform_bind.2 ⟨.ok size, _, rfl, runs_checked_bind.2 (.inl ⟨size, rfl, ?_⟩)⟩
  refine Act.runs_perform_bind.2
    ⟨.ok records, _, rfl, runs_checked_bind.2 (.inl ⟨records, rfl, ?_⟩)⟩
  refine Act.runs_perform_bind.2 ⟨.ok (), _, rfl, runs_checked_bind.2 (.inl ⟨(), rfl, ?_⟩)⟩
  unfold reports
  split
  · exact Act.runs_perform_bind.2
      ⟨(), _, rfl, Act.runs_bind_pure.2 ⟨_, runs_reportAll.2 ⟨rfl, rfl, rfl⟩, rfl⟩⟩
  · exact Act.runs_pure.2 ⟨rfl, rfl, rfl⟩

end Discovery.Registry

end FluidStructure
