import FluidStructure.Journal.Logger
import Mathlib.Logic.Basic

/-!
# Requested levels

A set-up asks for the messages from some level on.  A logger keeps this level in two places, its own and
that of its sinks.  Setting up the console or a file renews both; setting the level renews the first only.
So what is recorded afterwards are the messages that reach both the level asked for last and the level
with which the sink was installed.  The request is in effect exactly if it is not for more than the sink
takes.
-/

namespace FluidStructure.Journal

namespace Setup

/-- The level from which the set-up wants messages; a combined one leaves the choice to its sinks. -/
def requested : Setup → Level
  | .console wanted | .file _ wanted | .level wanted => wanted
  | .combined .. => .trace

/-- Asks for one level. -/
def isSingle : Setup → Bool
  | .combined .. => false
  | _ => true

/-- The sink that a set-up for one level installs, if it installs one. -/
def sink? : Setup → Option Sink
  | .console wanted => some ⟨.console, wanted⟩
  | .file name wanted => some ⟨.rotatingFile name Logger.maxFileBytes Logger.maxFiles, wanted⟩
  | .combined .. | .level _ => none

theorem level_of_sink? {setup : Setup} {sink : Sink} (h : setup.sink? = some sink) :
    sink.level = setup.requested := by
  cases setup with
  | console | file =>
    obtain rfl := Option.some.inj h
    rfl
  | combined | level => cases h

end Setup

/-- The level that the history asks for last, `start` if it asks for none. -/
def lastRequest (start : Level) (history : List Setup) : Level :=
  ((history.map Setup.requested).getLast?).getD start

/-- The sink that the history installs last, `start` if it installs none. -/
def lastSink (start : Sink) (history : List Setup) : Sink :=
  ((history.filterMap Setup.sink?).getLast?).getD start

theorem lastRequest_cons (start : Level) (setup : Setup) (history : List Setup) :
    lastRequest start (setup :: history) = lastRequest setup.requested history := by
  unfold lastRequest
  rw [List.map_cons, List.getLast?_cons, Option.getD_some]

theorem lastSink_cons (start : Sink) (setup : Setup) (history : List Setup) :
    lastSink start (setup :: history) = lastSink (setup.sink?.getD start) history := by
  unfold lastSink
  cases installed : setup.sink? with
  | none => rw [List.filterMap_cons_none installed, Option.getD_none]
  | some sink =>
    rw [List.filterMap_cons_some installed, List.getLast?_cons, Option.getD_some, Option.getD_some]

theorem lastRequest_concat (start : Level) (before : List Setup) (last : Setup) :
    lastRequest start (before ++ [last]) = last.requested := by
  unfold lastRequest
  rw [List.map_append, List.map_singleton, List.getLast?_concat, Option.getD_some]

theorem lastSink_concat {before : List Setup} {last : Setup} {sink : Sink} (start : Sink)
    (h : last.sink? = some sink) : lastSink start (before ++ [last]) = sink := by
  unfold lastSink
  rw [List.filterMap_append, List.filterMap_cons_some h, List.filterMap_nil, List.getLast?_concat,
    Option.getD_some]

namespace Logger

/-! ## Set-ups in turn -/

/-- Changes sinks or level, once for each set-up. -/
def setUpAll (logger : Logger) (history : List Setup) : Logger := history.foldl setUp logger

theorem setUp_single {setup : Setup} (single : setup.isSingle) (level : Level) (sink : Sink)
    (records : List Record) :
    (⟨level, [sink], records⟩ : Logger).setUp setup =
      ⟨setup.requested, [setup.sink?.getD sink], records⟩ := by
  cases setup with
  | combined => cases single
  | _ => rfl

/-- A logger with one sink keeps one.  Its own level is the one asked for last, the level of the sink is
that of its installation. -/
theorem setUpAll_single {history : List Setup} (single : ∀ setup ∈ history, setup.isSingle)
    (level : Level) (sink : Sink) (records : List Record) :
    (⟨level, [sink], records⟩ : Logger).setUpAll history =
      ⟨lastRequest level history, [lastSink sink history], records⟩ := by
  induction history generalizing level sink with
  | nil => rfl
  | cons setup history ih =>
    obtain ⟨first, later⟩ := List.forall_mem_cons.1 single
    rw [lastRequest_cons, lastSink_cons, ← ih later, ← setUp_single first level]
    rfl

/-! ## Messages -/

/-- One sink takes a message up once, if it reaches both levels. -/
theorem records_write_single (level : Level) (sink : Sink) (records : List Record) (message : Level)
    (text : String) :
    ((⟨level, [sink], records⟩ : Logger).write message text).records =
      records ++ if message.reaches level ∧ message.reaches sink.level
        then [⟨message, sink.target, text⟩] else [] := by
  unfold write recordsOf
  cases reached : message.reaches level <;> cases taken : message.reaches sink.level <;> simp [taken]

end Logger

theorem Level.reaches_iff {message threshold : Level} :
    message.reaches threshold ↔ threshold.rank ≤ message.rank := decide_eq_true_iff

/-- Nothing that can be a message reaches `off`. -/
theorem Level.ne_off_of_reaches {message threshold : Level} (some : message ≠ .off)
    (h : threshold.rank ≤ message.rank) : threshold ≠ .off := by
  rintro rfl
  cases message with
  | off => exact some rfl
  | _ => exact absurd h (by decide)

/-- After any set-ups for one level each, a message is recorded once if it reaches the level asked for last
and the level of the sink installed last, and otherwise not at all.  So the last request is in effect
exactly if the sink was not installed for less, as is always so when the last set-up installs it. -/
theorem requests_in_effect (start : Level) (before : List Setup) (last : Setup)
    (single : ∀ setup ∈ before ++ [last], setup.isSingle) :
    let logger := (Logger.console start).setUpAll (before ++ [last])
    let sink := lastSink ⟨.console, start⟩ (before ++ [last])
    (∀ message text, (logger.write message text).records =
      if message.reaches last.requested ∧ message.reaches sink.level
        then [⟨message, sink.target, text⟩] else []) ∧
    ((∀ message text, message ≠ .off → ((logger.write message text).records ≠ [] ↔
        last.requested ≠ .off ∧ last.requested.rank ≤ message.rank)) ↔
      sink.level.rank ≤ last.requested.rank) ∧
    (last.sink? ≠ none → sink.level = last.requested) := by
  intro logger sink
  have state : logger = ⟨last.requested, [sink], []⟩ := by
    rw [← lastRequest_concat start before last]
    exact Logger.setUpAll_single single start ⟨.console, start⟩ []
  have recorded (message : Level) (text : String) : (logger.write message text).records =
      if message.reaches last.requested ∧ message.reaches sink.level
        then [⟨message, sink.target, text⟩] else [] := by
    rw [state, Logger.records_write_single, List.nil_append]
  refine ⟨recorded, ⟨fun effective => ?_, fun enough message text some => ?_⟩, fun installs => ?_⟩
  · by_cases off : last.requested = .off
    · rw [off]
      cases sink.level <;> decide
    · -- a message of just the requested level is recorded, so the sink has taken it
      have kept := (effective last.requested "" off).2 ⟨off, Nat.le_refl _⟩
      rw [recorded] at kept
      exact Level.reaches_iff.1 (ite_ne_right_iff.1 kept).1.2
  · rw [recorded, ite_ne_right_iff, Level.reaches_iff, Level.reaches_iff]
    constructor
    · rintro ⟨⟨reached, -⟩, -⟩
      exact ⟨Level.ne_off_of_reaches some reached, reached⟩
    · rintro ⟨-, reached⟩
      exact ⟨⟨reached, Nat.le_trans enough reached⟩, List.cons_ne_nil _ _⟩
  · obtain ⟨installed, found⟩ := Option.ne_none_iff_exists'.1 installs
    have last_one : sink = installed := lastSink_concat _ found
    rw [last_one]
    exact Setup.level_of_sink? found

/-- Less is asked for than the file was installed for. -/
theorem requests_in_effect_lowered :
    (∀ setup ∈ [.file "run.log" .info] ++ [.level .error], Setup.isSingle setup) ∧
    ∀ message text, message ≠ .off →
      (((((Logger.console .trace).setUpAll ([.file "run.log" .info] ++ [.level .error])).write
        message text).records ≠ []) ↔ Level.error ≠ .off ∧ Level.error.rank ≤ message.rank) := by
  have single : ∀ setup ∈ [.file "run.log" .info] ++ [.level .error], Setup.isSingle setup := by decide
  obtain ⟨-, effective, -⟩ := requests_in_effect .trace [.file "run.log" .info] (.level .error) single
  exact ⟨single, effective.2 (by decide)⟩

/-- More is asked for than the console was installed for, without effect. -/
theorem raised_request_withheld :
    ¬ ((((Logger.console .info).setUpAll [.console .info, .level .debug]).write
        .debug "residual").records ≠ [] ↔
      (Setup.level .debug).requested ≠ .off ∧
        (Setup.level .debug).requested.rank ≤ Level.debug.rank) := by
  decide

end FluidStructure.Journal
