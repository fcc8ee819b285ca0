import FluidStructure.Proofs.Coupling.Conformance
import FluidStructure.Proofs.Programs.WholeRuns

/-!
# Fluid and structure in concord

The time loop of the fluid program and the exchange of the structure program run side by side,
on any number of fluid ranks and in any order of the processes.  Nobody waits in vain; both
programs take all planned steps, with as many sub-iterations, the same step length and the same
time; and no receive fails, save the last one of the structure, which hears of the end.
-/

namespace FluidStructure.Programs

open FluidStructure.Channel FluidStructure.Coupling FluidStructure.Parallel
open Network (Roots Traffic Reaches Step Settles failures EndsWithClosing)

/-! ## Logs of whole and of cut-off runs -/

/-- Up to some point the log shows no failure, and then only that the run is over. -/
def OnlyEnds (peer : Int32) (log : Log Parallel) : Prop :=
  failures log = [] ∨ EndsWithClosing peer log

/-- The beginning of such a log is such a log. -/
theorem OnlyEnds.of_append {peer : Int32} {log later : Log Parallel}
    (h : EndsWithClosing peer (log ++ later)) : OnlyEnds peer log := by
  obtain ⟨before, after, same, none, none', quiet⟩ := h
  rcases List.append_eq_append_iff.1 same with ⟨rest, rfl, -⟩ | ⟨rest, rfl, split⟩
  · left
    rw [Network.failures_append] at none
    exact (List.append_eq_nil_iff.1 none).1
  · cases rest with
    | nil =>
      left
      rw [List.append_nil]
      exact none
    | cons made rest =>
      obtain ⟨rfl, rfl⟩ := List.cons.inj split
      have quiet' : failures rest ++ failures later = [] :=
        (Network.failures_append rest later).symm.trans none'
      exact .inr ⟨before, rest, rfl, none, (List.append_eq_nil_iff.1 quiet').1,
        fun made member => quiet made (List.mem_append_left _ member)⟩

/-! ## Traffic along a run -/

/-- The traffic of a later state: the logs have grown. -/
structure Grown {n : Nat} (t u : Traffic n) : Prop where
  fluid : ∀ i, ∃ later, u.fluidLog i = t.fluidLog i ++ later
  solid : ∃ later, u.solidLog = t.solidLog ++ later

namespace Grown

variable {n : Nat} {α β : Type} {r : Roots} {s a : Network.State n α β} {who : Network.Who n}
  {t u v : Traffic n}

theorem refl (t : Traffic n) : Grown t t :=
  ⟨fun _ => ⟨[], (List.append_nil _).symm⟩, [], (List.append_nil _).symm⟩

theorem trans (first : Grown t u) (second : Grown u v) : Grown t v := by
  refine ⟨fun i => ?_, ?_⟩
  · obtain ⟨one, h⟩ := first.fluid i
    obtain ⟨two, l⟩ := second.fluid i
    exact ⟨one ++ two, by rw [l, h, List.append_assoc]⟩
  · obtain ⟨one, h⟩ := first.solid
    obtain ⟨two, l⟩ := second.solid
    exact ⟨one ++ two, by rw [l, h, List.append_assoc]⟩

theorem of_step (h : Step r s who a) : Grown s.traffic a.traffic := by
  cases h with
  | rank i asks =>
    refine ⟨fun j => ?_, [], (List.append_nil _).symm⟩
    by_cases same : j = i
    · subst same
      exact ⟨_, Network.put_same⟩
    · exact ⟨[], (Network.put_other same).trans (List.append_nil _).symm⟩
  | group asks => exact ⟨fun i => ⟨_, rfl⟩, [], (List.append_nil _).symm⟩
  | solid asks => exact ⟨fun _ => ⟨[], (List.append_nil _).symm⟩, _, rfl⟩

/-- A state that settles has an end whose logs continue its own. -/
theorem of_settles {Q : (Fin (n + 1) → α) → β → Traffic n → Prop} (h : Settles r Q s) :
    ∃ x y t, Q x y t ∧ Grown s.traffic t := by
  induction h with
  | done _ _ h => exact ⟨_, _, _, h, refl _⟩
  | turn who able _ ih =>
    obtain ⟨a, taken⟩ := able
    obtain ⟨x, y, t, h, grown⟩ := ih a taken
    exact ⟨x, y, t, h, (of_step taken).trans grown⟩

end Grown

/-! ## Both programs -/

/-- Both programs right before their coupled run. -/
structure Ensemble (φ : Type) (n : Nat) where
  roots : Roots
  parameters : Parameters
  /-- The wall and the interface of every fluid rank. -/
  wall : WallPatch
  surface : Surface
  peer : Discovery.Peer
  session : Fin (n + 1) → Session
  run : RunControl
  solver : Fin (n + 1) → φ
  /-- Mean displacement of the wall, for the report. -/
  mean : φ → Float
  oscillator : Oscillator
  fluidName : Text.Label
  proposedStep : Float

namespace Ensemble

variable {φ : Type} {n : Nat}

def place (i : Fin (n + 1)) : Place := ⟨Int32.ofNat i, Int32.ofNat (n + 1)⟩

def rank (s : Ensemble φ n) (i : Fin (n + 1)) : Rank φ where
  controller := { place := place i, session := s.session i, run := s.run }
  channel := { place := place i }
  solver := s.solver i

/-- What the structure program knows of its set-up. -/
def layout (s : Ensemble φ n) : Structure.Layout where
  fluid := s.roots.fluid
  fluidName := s.fluidName
  faces := (n + 1) * s.wall.count
  vertices := (n + 1) * 2 * (s.wall.count + 1)
  proposedStep := s.proposedStep

/-- All processes at the beginning, with no message under way. -/
def start [FluidSolver φ] (s : Ensemble φ n) :
    Network.State n (Except Fault (List Entry) × Fluid.Coupled φ)
      (Except Fault (Int32 × List Entry) × MessageChannel) where
  fluid i := Fluid.timeLoopRecorded (place i) s.parameters s.mean (Fluid.zeroArrays s.wall)
    ((s.rank i).pair (place i))
  solid := Structure.exchangeRecorded s.layout s.oscillator { place := {} }

/-- The fluid ranks have found the structure and registered their interface, and their fields are
small enough for a message. -/
structure Prepared [FluidSolver φ] (s : Ensemble φ n) (sound : φ → Prop) : Prop where
  length : 0.0 < s.parameters.referenceLength
  steps : 1 ≤ s.parameters.maxTimeSteps
  faces : 1 ≤ s.wall.count
  small : (n + 1) * (3 * s.wall.vertexCount) < 2 ^ 31
  surface : s.wall.surface = .ok s.surface
  found : s.peer.found = true
  peer : s.peer.root = s.roots.solid
  registered : ∀ i, ∃ log,
    (Session.register (place i) s.surface s.parameters.referenceLength).Runs
      (Session.new s.parameters s.peer) log (.ok ()) (s.session i)
  started : RunControl.start s.parameters.maxTimeSteps s.parameters.initialTime = .ok s.run
  dependable : Dependable sound s.surface.vertexCount
  solvers : ∀ i, sound (s.solver i)

/-- How a coupled run ends: all processes with the same entries, one for each planned step, and
no failed receive but the last one of the structure. -/
structure Concord (s : Ensemble φ n)
    (fluid : Fin (n + 1) → Except Fault (List Entry) × Fluid.Coupled φ)
    (solid : Except Fault (Int32 × List Entry) × MessageChannel) (t : Traffic n) : Prop where
  entries : ∃ entries : List Entry,
    entries.length = s.parameters.maxTimeSteps.toNatClampNeg ∧
      (∀ i, (fluid i).1 = .ok entries) ∧ solid.1 = .ok (0, entries)
  fluid : ∀ i, failures (t.fluidLog i) = []
  solid : EndsWithClosing s.roots.fluid t.solidLog

variable [FluidSolver φ] {s : Ensemble φ n} {sound : φ → Prop}

theorem Prepared.root (h : s.Prepared sound) (i : Fin (n + 1)) :
    (place i).isRoot = decide (i = 0) := by
  have small := h.small
  have vertices : 1 ≤ s.wall.vertexCount := by
    unfold WallPatch.vertexCount
    omega
  have few : n + 1 ≤ (n + 1) * (3 * s.wall.vertexCount) := Nat.le_mul_of_pos_right _ (by omega)
  have range : (Int32.ofNat i).toInt = i := Int32.toInt_ofNat_of_lt (by omega)
  unfold Place.isRoot place
  refine decide_eq_decide.2 ⟨fun zero => ?_, fun zero => by rw [zero]; rfl⟩
  have number : (i : Int) = 0 := range.symm.trans (congrArg Int32.toInt zero)
  exact Fin.ext (by simpa using number)

/-- What all ranks of the fluid have in common. -/
def terms (s : Ensemble φ n) : Terms := ⟨s.parameters, s.peer, s.surface⟩

/-- The point at which all ranks start. -/
def origin (s : Ensemble φ n) : Point where
  phase := .uninitialized
  iteration := 0
  subIteration := 0
  step := 0
  time := s.parameters.initialTime
  dt := 0.0

theorem Prepared.faceCount (h : s.Prepared sound) :
    s.surface.faceCount = s.wall.count ∧ s.surface.vertexCount = s.wall.vertexCount := by
  have small := h.small
  have narrow : 6 * (s.wall.count + 1) < 2 ^ 64 := by
    have few : 3 * s.wall.vertexCount ≤ (n + 1) * (3 * s.wall.vertexCount) :=
      Nat.le_mul_of_pos_left _ (Nat.succ_pos n)
    unfold WallPatch.vertexCount at few small
    omega
  have surface := h.surface
  rw [WallPatch.surface_ok h.faces narrow] at surface
  rw [← Except.ok.inj surface]
  simp [Surface.faceCount, Surface.vertexCount, WallPatch.ids]

theorem Prepared.launch (h : s.Prepared sound) : Launch s.roots s.terms (place (n := n)) sound where
  root := h.root
  found := h.found
  peer := h.peer
  length := h.length
  solver := h.dependable
  someFaces := h.faceCount.1 ▸ h.faces
  someVertices := by
    show 0 < s.surface.vertexCount
    rw [h.faceCount.2]
    exact Nat.mul_pos (by decide) (Nat.succ_pos _)
  faces := by
    have small := h.small
    have fewer : s.wall.count ≤ s.wall.vertexCount := by
      unfold WallPatch.vertexCount
      omega
    show (n + 1) * (3 * s.surface.faceCount) < 2 ^ 31
    rw [h.faceCount.1]
    exact Nat.lt_of_le_of_lt (Nat.mul_le_mul_left _ (Nat.mul_le_mul_left _ fewer)) small
  vertices := by
    show (n + 1) * (3 * s.surface.vertexCount) < 2 ^ 31
    rw [h.faceCount.2]
    exact h.small

theorem Prepared.facing (h : s.Prepared sound) :
    Facing s.roots s.terms (n + 1) s.layout where
  fluid := rfl
  faces := congrArg ((n + 1) * ·) h.faceCount.1.symm
  vertices := by
    show (n + 1) * 2 * (s.wall.count + 1) = (n + 1) * s.surface.vertexCount
    rw [h.faceCount.2, WallPatch.vertexCount, Nat.mul_assoc]

theorem Prepared.stands (h : s.Prepared sound) (i : Fin (n + 1)) :
    (s.rank i).Stands s.terms (place i) sound s.origin := by
  obtain ⟨log, registered⟩ := h.registered i
  obtain ⟨faces, vertices, attached⟩ := Controller.runs_register registered
  obtain ⟨-, run⟩ := RunControl.start_eq_ok_iff.1 h.started
  have long (count : Nat) : (Session.zeroVectors count).length = 3 * count := by
    unfold Session.zeroVectors
    rw [List.length_replicate]
  have at_ : At s.terms (place i) s.origin (s.rank i).controller := by
    unfold rank
    rw [attached, run]
    exact ⟨rfl, rfl, rfl, rfl, rfl, rfl, rfl, rfl, rfl, rfl, rfl, rfl, rfl, long _, long _,
      Session.sized_attach .., fun begun => absurd rfl begun⟩
  exact ⟨at_, rfl, h.solvers i⟩

/-- In some order of steps, and so in any, the coupled run ends in concord. -/
theorem Prepared.settles (h : s.Prepared sound) : Settles s.roots s.Concord s.start := by
  have narrow : 6 * (s.wall.count + 1) < 2 ^ 64 := by
    have faces := h.launch.faces
    have few : 3 * s.surface.faceCount ≤ (n + 1) * (3 * s.surface.faceCount) :=
      Nat.le_mul_of_pos_left _ (Nat.succ_pos n)
    have same := h.faceCount.1
    unfold terms at faces
    dsimp only at faces
    omega
  have fits (_ : Fin (n + 1)) : Fits s.terms.surface (Fluid.zeroArrays s.wall) :=
    fits_zeroArrays h.faces narrow h.surface
  exact meets_run h.launch h.facing h.stands rfl rfl rfl rfl h.steps rfl fits
    (fun _ _ _ entries long fluid solid clean ends => ⟨⟨entries, long, fluid, solid⟩, clean, ends⟩)
    {} ⟨fun _ => rfl, rfl⟩ rfl rfl

end Ensemble

/-- Fluid and structure agree, whatever the order of their steps is: every state that they reach
has a next step or is the end, and there is an end to every run; at the end both have taken all
planned steps and hold the same record of sub-iterations, step lengths and times; and no receive
fails before the structure hears that the run is over. -/
theorem programs_agree {φ : Type} [FluidSolver φ] {n : Nat} {s : Ensemble φ n} {sound : φ → Prop}
    (h : s.Prepared sound) :
    (∀ a, Reaches s.roots s.start a →
      ((∃ who b, Step s.roots a who b) ∨
        ∃ x y, (∀ i, a.fluid i = .done (x i)) ∧ a.solid = .done y ∧ s.Concord x y a.traffic) ∧
      (∀ i, failures (a.traffic.fluidLog i) = []) ∧
      OnlyEnds s.roots.fluid a.traffic.solidLog) ∧
    Acc (fun after before => ∃ who, Step s.roots before who after) s.start ∧
    (∀ i : Fin (n + 1), Fluid.timeLoop (Ensemble.place i) s.parameters s.mean (Fluid.zeroArrays s.wall) =
      (fun _ => ()) <$> Fluid.timeLoopRecorded (Ensemble.place i) s.parameters s.mean
        (Fluid.zeroArrays s.wall)) ∧
    Structure.exchange s.layout s.oscillator =
      Prod.fst <$> Structure.exchangeRecorded s.layout s.oscillator := by
  refine ⟨fun a reached => ?_, Network.acc_step _, fun i => Fluid.timeLoop_eq _ _ _ _,
    Structure.exchange_eq _ _⟩
  have settles := h.settles.reaches reached
  obtain ⟨x, y, t, concord, grown⟩ := Grown.of_settles settles
  refine ⟨settles.goes_on, fun i => ?_, ?_⟩
  · obtain ⟨later, same⟩ := grown.fluid i
    have clean := concord.fluid i
    rw [same, Network.failures_append] at clean
    exact (List.append_eq_nil_iff.1 clean).1
  · obtain ⟨later, same⟩ := grown.solid
    exact OnlyEnds.of_append (same ▸ concord.solid)

namespace TwoRanks

/-- A wall of one face on each of two ranks. -/
def wall : WallPatch := ⟨1⟩

def surface : Surface := ⟨WallPatch.ids 1, WallPatch.ids 4, 4⟩

/-- Two steps of at most three sub-iterations. -/
def parameters : Parameters :=
  { maxTimeSteps := 2, maxSubIterations := 3, referenceStep := 0.5, referenceLength := 1.0 }

def peer : Discovery.Peer := { root := 2 }

def registered (i : Fin 2) : Log Coupling × Except Fault Unit × Session :=
  (Session.register (Ensemble.place i) surface 1.0 (Session.new parameters peer)).follow
    (Controller.echo Status.ok)

theorem registered_ok : ∀ i, (registered i).2.1 = .ok ()
  | 0 => rfl
  | 1 => rfl

def fluid : PulsatingChannel where
  faceArea := 0.01
  amplitude := 100.0
  frequency := 5.0
  addedStiffness := 0.0
  surface
  wallDisplacement := Session.zeroVectors 4

def ensemble : Ensemble PulsatingChannel 1 where
  roots := ⟨0, 2⟩
  parameters
  wall
  surface
  peer
  session i := (registered i).2.2
  run := { lastStep := 2, previousTime := 0.0, time := 0.0 }
  solver _ := fluid
  mean := PulsatingChannel.meanDisplacement
  oscillator := {}
  fluidName := "pulsating_channel"
  proposedStep := 0.25

theorem narrow : 6 * (wall.count + 1) < 2 ^ 64 := by decide

theorem surface_eq : wall.surface = .ok surface := WallPatch.surface_ok (by decide) narrow

theorem prepared : ensemble.Prepared fun c : PulsatingChannel =>
    c.surface = surface ∧ c.wallDisplacement.length = 3 * wall.vertexCount where
  length := by decide
  steps := by decide
  faces := by decide
  small := by decide
  surface := surface_eq
  found := rfl
  peer := rfl
  registered i := by
    have run := Act.runs_follow (I := Coupling) (Controller.echo Status.ok)
      (Session.register (Ensemble.place i) surface 1.0) (Session.new parameters peer)
    have fine := registered_ok i
    unfold registered at fine
    rw [fine] at run
    exact ⟨_, run⟩
  started := rfl
  dependable := dependable_pulsatingChannel (by decide) narrow surface_eq
  solvers _ := ⟨rfl, List.length_replicate⟩

/-- Two fluid ranks and the structure, two steps. -/
theorem programs_agree_twoRanks : ensemble.Prepared (fun c : PulsatingChannel =>
      c.surface = surface ∧ c.wallDisplacement.length = 3 * wall.vertexCount) ∧
    ∀ a, Reaches ensemble.roots ensemble.start a →
      (∃ who b, Step ensemble.roots a who b) ∨
        ∃ x y, (∀ i, a.fluid i = .done (x i)) ∧ a.solid = .done y ∧
          ensemble.Concord x y a.traffic :=
  ⟨prepared, fun a reached => ((programs_agree prepared).1 a reached).1⟩

end TwoRanks

end FluidStructure.Programs
