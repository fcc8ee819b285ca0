import FluidStructure.Coupling.Parameters
import FluidStructure.Proofs.Config.Getters
import FluidStructure.Proofs.Doubles

/-!
# Parameters of a configuration

Every configuration has a result: parameters that pass the validation, or a fault that says that the
configuration is wrong.  Which of them, and which parameters, depends on the values under the keys of
the parameters alone, in the section where these stand.
-/

namespace FluidStructure.Coupling.Parameters

open FluidStructure.Config

/-! ## Validation -/

/-- What the validation asks for.  The reference length is checked again when it is used, so here it
may be zero, or no number. -/
structure Acceptable (p : Parameters) : Prop where
  maxTimeSteps : 0 ≤ p.maxTimeSteps
  maxSubIterations : 0 ≤ p.maxSubIterations
  tolerance : 0.0 < p.tolerance
  referenceStep : 0.0 < p.referenceStep
  referenceLength : ¬ p.referenceLength < 0.0
  verbosity : 0 ≤ p.verbosity
  visualization : 0 ≤ p.visualization
  peerType : p.peerType ≠ ""

variable {p : Parameters} {fault : Fault}

theorem validate_ok_iff : p.validate = .ok () ↔ p.Acceptable := by
  constructor
  · intro accepted
    unfold validate at accepted
    repeat' split at accepted
    all_goals cases accepted
    rename_i steps subIterations tolerance step length levels peer
    rw [not_or] at levels
    exact
      { maxTimeSteps := Int32.not_lt.1 steps
        maxSubIterations := Int32.not_lt.1 subIterations
        tolerance := by simpa using tolerance
        referenceStep := by simpa using step
        referenceLength := length
        verbosity := Int32.not_lt.1 levels.1
        visualization := Int32.not_lt.1 levels.2
        peerType := by simpa using peer }
  · intro acceptable
    unfold validate
    rw [if_neg (Int32.not_lt.2 acceptable.maxTimeSteps),
      if_neg (Int32.not_lt.2 acceptable.maxSubIterations), if_neg (by simpa using acceptable.tolerance),
      if_neg (by simpa using acceptable.referenceStep), if_neg acceptable.referenceLength,
      if_neg, if_neg (by simpa using acceptable.peerType)]
    rintro (less | less)
    · exact Int32.not_lt.2 acceptable.verbosity less
    · exact Int32.not_lt.2 acceptable.visualization less

theorem kind_of_validate (failed : p.validate = .error fault) : fault.kind = .configuration := by
  unfold validate at failed
  repeat' split at failed
  all_goals cases failed
  all_goals rfl

/-! ## Reading -/

/-- The keys of the parameters. -/
def keys : List String :=
  ["max_time_steps", "max_sub_iterations", "tolerance", "initial_time", "reference_time_step",
    "reference_length", "verbosity", "visualization", "peer_type"]

/-- Reading the values looks at nothing but the keys, and faults at a value of another type only. -/
theorem reads_readValues : Section.Reads keys readValues := by
  unfold readValues
  refine .bind (.getInt (by decide) _) fun maxTimeSteps => ?_
  refine .bind (.getInt (by decide) _) fun maxSubIterations => ?_
  refine .bind (.getReal (by decide) _) fun tolerance => ?_
  refine .bind (.getReal (by decide) _) fun initialTime => ?_
  refine .bind (.getReal (by decide) _) fun referenceStep => ?_
  refine .bind (.getReal (by decide) _) fun referenceLength => ?_
  refine .bind (.getInt (by decide) _) fun verbosity => ?_
  refine .bind (.getInt (by decide) _) fun visualization => ?_
  refine .bind (.getText (by decide) _) fun peerType => ?_
  exact .pure _

/-! ## Configurations -/

variable {config other : Section}

/-- Parameters come from a configuration exactly if the mandatory keys are there, all values have their
types and the parameters pass the validation. -/
theorem ofSection_eq_ok_iff : ofSection config = .ok p ↔
    (∀ key ∈ mandatory, (home config).has key = true) ∧ readValues (home config) = .ok p ∧
      p.Acceptable := by
  unfold ofSection
  constructor
  · intro made
    dsimp only at made
    split at made
    · cases made
    · rename_i present
      have there : ∀ key ∈ mandatory, (home config).has key = true := by
        simpa using List.find?_eq_none.1 present
      split at made
      · cases made
      · rename_i read
        split at made
        · cases made
        · rename_i accepted
          cases made
          exact ⟨there, read, validate_ok_iff.1 accepted⟩
  · rintro ⟨there, read, acceptable⟩
    have present : (mandatory.find? fun key => !(home config).has key) = none :=
      List.find?_eq_none.2 (by simpa using there)
    dsimp only
    rw [present, read]
    dsimp only
    rw [validate_ok_iff.2 acceptable]

/-- Why there are no parameters: a key is missing, a value has another type, or the validation turns
the parameters down. -/
inductive Refusal (s : Section) : Fault → Prop
  | missing {key : String} (member : key ∈ mandatory) : Refusal s (.parameterMissing key)
  | mistyped {key : String} (member : key ∈ keys) (expected : String) :
      Refusal s (.couplingSection (.valueType s.name key expected))
  | invalid {p : Parameters} {fault : Fault} (read : readValues s = .ok p)
      (failed : p.validate = .error fault) : Refusal s fault

theorem refusal_of_ofSection (failed : ofSection config = .error fault) :
    Refusal (home config) fault := by
  unfold ofSection at failed
  dsimp only at failed
  split at failed
  · rename_i key found
    cases failed
    exact .missing (List.mem_of_find?_eq_some found)
  · split at failed
    · rename_i reason wrong
      cases failed
      obtain ⟨key, member, expected, rfl⟩ := reads_readValues.fault _ _ wrong
      exact .mistyped member expected
    · rename_i p read
      split at failed
      · rename_i reason turnedDown
        cases failed
        exact .invalid read turnedDown
      · cases failed

theorem Refusal.kind {s : Section} (refusal : Refusal s fault) : fault.kind = .configuration := by
  cases refusal with
  | missing => rfl
  | mistyped => rfl
  | invalid read failed => exact kind_of_validate failed

theorem ofSection_transfer (agree : Section.AgreeOn keys (home config) (home other))
    (made : ofSection config = .ok p) : ofSection other = .ok p := by
  obtain ⟨there, read, acceptable⟩ := ofSection_eq_ok_iff.1 made
  refine ofSection_eq_ok_iff.2 ⟨fun key member => ?_, ?_, acceptable⟩
  · have known : ∀ key ∈ mandatory, key ∈ keys := by decide
    rw [← agree.has_eq (known key member)]
    exact there key member
  · exact reads_readValues.transfer _ _ p agree read

/-- A configuration gives acceptable parameters as they are read, or a fault of the configuration; what
the getters fault at is always the type of a value.  Only the values under the keys count, in the
section where the parameters stand, and it is the same whether this section or the one around it is
passed. -/
theorem parameters_of_configuration (config : Section) :
    (∀ fault, ofSection config = .error fault → fault.kind = .configuration) ∧
    (∀ fault, readValues (home config) = .error fault → fault.kind = .invalidArgument) ∧
    (∀ p, ofSection config = .ok p ↔
      (∀ key ∈ mandatory, (home config).has key = true) ∧ readValues (home config) = .ok p ∧
        p.Acceptable) ∧
    (∀ p, ofSection config = .ok p →
      p.Acceptable ∧ p.tolerance.isNaN = false ∧ p.referenceStep.isNaN = false) ∧
    (∀ other, Section.AgreeOn keys (home config) (home other) →
      ∀ p, ofSection config = .ok p ↔ ofSection other = .ok p) ∧
    ∀ inner, config.subsections.get? "coupling" = some inner →
      inner.subsections.get? "coupling" = none → ofSection inner = ofSection config := by
  refine ⟨fun fault failed => ?_, fun fault failed => ?_, fun p => ofSection_eq_ok_iff,
    fun p made => ?_, fun other agree p => ?_, fun inner found none => ?_⟩
  · exact (refusal_of_ofSection failed).kind
  · obtain ⟨key, -, expected, rfl⟩ := reads_readValues.fault _ _ failed
    rfl
  · obtain ⟨-, -, acceptable⟩ := ofSection_eq_ok_iff.1 made
    exact ⟨acceptable, isNaN_of_lt acceptable.tolerance, isNaN_of_lt acceptable.referenceStep⟩
  · exact ⟨ofSection_transfer agree, ofSection_transfer agree.symm⟩
  · have outer : home config = inner := by rw [home, found, Option.getD_some]
    have same : home inner = inner := by rw [home, none, Option.getD_none]
    unfold ofSection
    rw [outer, same]

namespace Nested

/-- The two keys without a default. -/
def coupling : Section :=
  .node "coupling" [("max_time_steps", .int 5), ("reference_time_step", .real 0.5)] []

/-- A value beside the subsection does not count. -/
def whole : Section := .node "root" [("max_time_steps", .text "many")] [("coupling", coupling)]

/-- The same values in a section of another name, which has another subsection. -/
def flat : Section := .node "run" coupling.values [("flap", .empty "flap")]

/-- A tolerance of another type. -/
def mistyped : Section := coupling.set "tolerance" (.bool true)

def standard : Parameters := { maxTimeSteps := 5, referenceStep := 0.5 }

theorem parameters_of_configuration_nested :
    ofSection whole = .ok standard ∧ standard.Acceptable ∧ standard.tolerance.isNaN = false ∧
    ofSection flat = .ok standard ∧ ofSection coupling = ofSection whole ∧
    (∃ fault, ofSection mistyped = .error fault ∧ fault.kind = .configuration) ∧
    (∃ fault, readValues mistyped = .error fault ∧ fault.kind = .invalidArgument) := by
  obtain ⟨-, -, -, accepted, agreeing, inward⟩ := parameters_of_configuration whole
  obtain ⟨wrong, type, -⟩ := parameters_of_configuration mistyped
  have made : ofSection whole = .ok standard := by rfl
  obtain ⟨acceptable, number, -⟩ := accepted standard made
  exact ⟨made, acceptable, number, (agreeing flat (fun _ _ => rfl) standard).1 made,
    inward coupling rfl rfl, ⟨_, rfl, wrong _ rfl⟩, ⟨_, rfl, type _ rfl⟩⟩

end Nested

end FluidStructure.Coupling.Parameters
