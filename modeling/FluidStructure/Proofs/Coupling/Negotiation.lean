import FluidStructure.Proofs.Coupling.LastStep
import FluidStructure.Proofs.Coupling.Plan
import FluidStructure.Proofs.Coupling.ReferenceLength
import FluidStructure.Proofs.Coupling.Silence
import FluidStructure.Proofs.Doubles

/-!
# The agreed step

On the coordinating rank a negotiation makes at most two calls: it hears the step that the peer
proposes and tells the smallest of the three steps.  What is told, what is returned and what the
session keeps are the same step; if one of the calls fails, they are the reference step, the peer is
lost, and the run ends with the step after the next one.
-/

namespace FluidStructure.Coupling

open FluidStructure.Channel FluidStructure.Journal

namespace TimeStep

/-- The smallest of three steps is one of them, and none of them compares smaller. -/
structure Least (reference peer own chosen : Float) : Prop where
  one : chosen = reference ∨ chosen = peer ∨ chosen = own
  least : ¬reference < chosen ∧ ¬peer < chosen ∧ ¬own < chosen

theorem smaller_eq (a b : Float) : smaller a b = a ∨ smaller a b = b := by
  unfold smaller
  split
  · exact .inr rfl
  · exact .inl rfl

theorem not_lt_smaller {x a : Float} (h : ¬x < a) (b : Float) : ¬x < smaller a b := by
  unfold smaller
  split
  · rename_i less
    exact fun below => h (float_lt_trans below less)
  · exact h

theorem not_lt_smaller_right (a b : Float) : ¬b < smaller a b := by
  unfold smaller
  split
  · exact float_lt_irrefl b
  · assumption

theorem least_smallest (reference peer own : Float) :
    Least reference peer own (smallest reference peer own) where
  one := by
    unfold smallest
    rcases smaller_eq (smaller reference peer) own with first | last
    · rw [first]
      rcases smaller_eq reference peer with same | same
      · exact .inl same
      · exact .inr (.inl same)
    · exact .inr (.inr last)
  least :=
    ⟨not_lt_smaller (not_lt_smaller (float_lt_irrefl reference) peer) own,
      not_lt_smaller (not_lt_smaller_right reference peer) own,
      not_lt_smaller_right (smaller reference peer) own⟩

/-! ## The calls -/

/-- The transport calls of a log, with what came of them. -/
def messages (log : Log Coupling) : Log Coupling := log.filter fun e => e.request.call?.isSome

@[simp] theorem messages_append (first second : Log Coupling) :
    messages (first ++ second) = messages first ++ messages second := List.filter_append ..

theorem messages_cons (e : Exchange Coupling) (log : Log Coupling) :
    messages (e :: log) = (if e.request.call?.isSome then [e] else []) ++ messages log := by
  unfold messages
  rw [List.filter_cons]
  split <;> rfl

theorem messages_of_local {log : Log Coupling} (h : Local log) : messages log = [] := by
  refine List.filter_eq_nil_iff.2 fun e member => ?_
  rw [Request.call?_of_isLocal (h e member)]
  decide

/-- The calls of a negotiation for an iteration, and the step that both solvers then use; none if a
call fails.  Without a value the proposal of the peer is the reference step. -/
inductive Dialogue (s : Session) (iteration : Int32) (own : Float) :
    Log Coupling → Option Float → Prop
  | unheard {received : Status × List Float} (failed : Status.failed received.1 = true) :
    Dialogue s iteration own
      [⟨.receiveReals s.peer.root iteration Variable.peerTimeStep [s.parameters.referenceStep],
        received⟩]
      none
  | untold {received : Status × List Float} {sent : Status} {chosen : Float}
      (heard : Status.failed received.1 = false)
      (least : Least s.parameters.referenceStep (received.2.headD s.parameters.referenceStep) own
        chosen)
      (failed : Status.failed sent = true) :
    Dialogue s iteration own
      [⟨.receiveReals s.peer.root iteration Variable.peerTimeStep [s.parameters.referenceStep],
        received⟩,
        ⟨.sendReals s.peer.root iteration Variable.negotiatedTimeStep [chosen], sent⟩]
      none
  | told {received : Status × List Float} {sent : Status} {chosen : Float}
      (heard : Status.failed received.1 = false)
      (least : Least s.parameters.referenceStep (received.2.headD s.parameters.referenceStep) own
        chosen)
      (told : Status.failed sent = false) :
    Dialogue s iteration own
      [⟨.receiveReals s.peer.root iteration Variable.peerTimeStep [s.parameters.referenceStep],
        received⟩,
        ⟨.sendReals s.peer.root iteration Variable.negotiatedTimeStep [chosen], sent⟩]
      (some chosen)

theorem runs_exchanged {s : Session} {iteration : Int32} {own : Float} {log : Log Coupling}
    {outcome : Option Float} (run : (exchanged s iteration own).Runs log outcome) :
    Dialogue s iteration own (messages log) outcome := by
  unfold exchanged at run
  obtain ⟨received, rest, rfl, on⟩ := Program.runs_ask.1 run
  dsimp only at on
  cases heard : Status.failed received.1 with
  | true =>
    rw [if_pos heard] at on
    obtain ⟨_, _, rfl, ends⟩ := Program.runs_ask.1 on
    obtain ⟨rfl, rfl⟩ := Program.runs_done.1 ends
    exact .unheard heard
  | false =>
    rw [if_neg (Bool.eq_false_iff.1 heard)] at on
    obtain ⟨sent, rest', rfl, telling⟩ := Program.runs_ask.1 on
    cases told : Status.failed sent with
    | true =>
      rw [if_pos told] at telling
      obtain ⟨_, _, rfl, ends⟩ := Program.runs_ask.1 telling
      obtain ⟨rfl, rfl⟩ := Program.runs_done.1 ends
      exact .untold heard (least_smallest _ _ _) told
    | false =>
      rw [if_neg (Bool.eq_false_iff.1 told)] at telling
      obtain ⟨_, rfl, ends⟩ := runs_noting.1 telling
      obtain ⟨rfl, rfl⟩ := Program.runs_done.1 ends
      have quiet := messages_of_local (local_notes s.isTracing (.stepExchanged iteration own
        (received.2.headD s.parameters.referenceStep) (smallest s.parameters.referenceStep
          (received.2.headD s.parameters.referenceStep) own)))
      rw [messages_cons, messages_cons, messages_append, quiet]
      exact .told heard (least_smallest _ _ _) told

/-- What the coordinating rank proposes to its group follows from its calls. -/
theorem runs_proposal_dialogue {place : Parallel.Place} {s : Session} {own : Float}
    {log : Log Coupling} {proposed : Int32 × Float} (onRoot : place.isRoot = true)
    (found : s.peer.found = true) (run : (proposal place s own).Runs log proposed) :
    ∃ outcome, Dialogue s (s.iteration + 1) own (messages log) outcome ∧
      proposed = match outcome with
        | some chosen => (s.iteration + 1, chosen)
        | none => (-1, s.parameters.referenceStep) := by
  unfold proposal at run
  rw [if_pos (by simp [Session.isDryRun, found, onRoot])] at run
  obtain ⟨calling, outcome, closing, rfl, exchanging, ends⟩ := Program.runs_bind.1 run
  have dialogue := runs_exchanged exchanging
  cases outcome with
  | some chosen =>
    obtain ⟨rfl, rfl⟩ := Program.runs_done.1 ends
    rw [List.append_nil]
    exact ⟨some chosen, dialogue, rfl⟩
  | none =>
    obtain ⟨_, _, rfl, last⟩ := Program.runs_ask.1 ends
    obtain ⟨rfl, rfl⟩ := Program.runs_done.1 last
    have quiet : messages [⟨.note .exchangeLost, ()⟩] = [] := rfl
    rw [messages_append, quiet, List.append_nil]
    exact ⟨none, dialogue, rfl⟩

/-! ## The agreement -/

/-- The session that enters an iteration with a step. -/
def entering (s : Session) (iteration : Int32) (dt : Float) : Session :=
  { s with iteration := iteration, previousDt := s.dt, dt := dt, subIteration := 0 }

/-- The group of the coordinating rank takes its proposal over. -/
theorem runs_settle_of_compliant {wanted : Bool} {proposed : Int32 × Float} {t u : Schedule}
    {log : Log Coupling} {result : Except Fault Float}
    (run : (settle wanted proposed).Runs t log result u) (compliant : ∀ e ∈ log, Compliant e)
    (sound : ¬Faulty log) :
    messages log = [] ∧ result = .ok proposed.2 ∧ u = t.agree proposed.1 proposed.2 := by
  unfold Act.Runs settle at run
  obtain ⟨first, rest, rfl, opened⟩ := Program.runs_ask.1 run
  rcases runs_opening.1 opened with ⟨dts, rfl, asking⟩ | ⟨fault, rfl, -⟩
  · obtain ⟨second, rest', rfl, onward⟩ := Program.runs_ask.1 asking
    rcases runs_opening.1 onward with ⟨iterations, rfl, noted⟩ | ⟨fault, rfl, -⟩
    · obtain ⟨last, rfl, ends⟩ := runs_noting.1 noted
      obtain ⟨rfl, same⟩ := Program.runs_done.1 ends
      obtain ⟨rfl, rfl⟩ := Prod.mk.inj same
      obtain rfl : dts = [proposed.2] := compliant _ List.mem_cons_self dts rfl
      obtain rfl : iterations = [proposed.1] :=
        compliant _ (List.mem_cons_of_mem _ List.mem_cons_self) iterations rfl
      rw [messages_cons, messages_cons, messages_append, messages_of_local (local_notes _ _)]
      exact ⟨rfl, rfl, rfl⟩
    · exact absurd ⟨_, List.mem_cons_of_mem _ List.mem_cons_self, rfl⟩ sound
  · exact absurd ⟨_, List.mem_cons_self, rfl⟩ sound

variable {place : Parallel.Place} {own : Float} {t u : Schedule} {log : Log Coupling}
  {result : Except Fault Float}

/-- A terminated session takes the own step; it asks nothing and changes nothing.  Otherwise, on
the coordinating rank of a group that does not fault: if the proposal of the peer comes and the
answer is sent, the step that was told is the one that is returned and kept, and the iteration of
the two calls is the new one.  If not, the reference step is used, the peer is lost, and the run is
to end with the step after the current one, unless it has passed its last step or that one is full. -/
theorem negotiate_settles (run : (negotiate place own).Runs t log result u) :
    (t.session.isTerminated = true → log = [] ∧ result = .ok own ∧ u = t) ∧
      (t.session.isTerminated = false → place.isRoot = true → t.session.peer.found = true →
        (∀ e ∈ log, Compliant e) → ¬Faulty log →
        ∃ outcome, Dialogue t.session (t.session.iteration + 1) own (messages log) outcome ∧
          match outcome with
          | some chosen =>
            result = .ok chosen ∧
              u.session = entering t.session (t.session.iteration + 1) chosen ∧
              (t.session.iteration < Int32.maxValue → u.run = t.run)
          | none =>
            result = .ok t.session.parameters.referenceStep ∧
              u.session = entering t.session (-1) t.session.parameters.referenceStep ∧
              (u.run = if t.run.lastStep < Int32.maxValue ∧ t.run.currentStep ≤ t.run.lastStep then
                t.run.scheduleStop (t.run.currentStep + 1) else t.run) ∧
              (t.run.lastStep < Int32.maxValue →
                (u.run.lastStep.toInt = t.run.currentStep.toInt + 1 ↔
                  t.run.currentStep ≤ t.run.lastStep))) := by
  unfold Act.Runs at run
  rw [negotiate_apply] at run
  constructor
  · intro gone
    rw [if_pos gone] at run
    obtain ⟨rfl, same⟩ := Program.runs_done.1 run
    obtain ⟨rfl, rfl⟩ := Prod.mk.inj same
    exact ⟨rfl, rfl, rfl⟩
  · intro live onRoot found compliant sound
    rw [if_neg (Bool.eq_false_iff.1 live)] at run
    obtain ⟨proposing, proposed, agreeing, rfl, calling, settling⟩ := Program.runs_bind.1 run
    obtain ⟨outcome, dialogue, rfl⟩ := runs_proposal_dialogue onRoot found calling
    obtain ⟨quiet, rfl, rfl⟩ := runs_settle_of_compliant settling
      (fun e member => compliant e (List.mem_append_right _ member))
      fun ⟨e, member, faults⟩ => sound ⟨e, List.mem_append_right _ member, faults⟩
    refine ⟨outcome, ?_, ?_⟩
    · rw [messages_append, quiet, List.append_nil]
      exact dialogue
    · cases outcome with
      | some chosen =>
        refine ⟨rfl, rfl, fun room => if_neg ?_⟩
        have nonnegative : 0 ≤ t.session.iteration := Int32.not_lt.1 (of_decide_eq_false live)
        have room : t.session.iteration ≠ Int32.maxValue := fun full =>
          Int32.lt_irrefl (full ▸ room)
        exact Int32.not_lt.2 (Int32.le_of_lt (zero_lt_add_one nonnegative room))
      | none => exact ⟨rfl, rfl, t.run.windDown_eq, RunControl.lastStep_windDown⟩

namespace NearPeer

/-- A peer that proposes the step 0.25. -/
def reply : (request : Request) → request.Reply
  | .receiveReals .. => (1, [0.25])
  | request => Controller.echo Status.ok request

def start : Schedule where
  session := Session.new { referenceStep := 1.0 } { root := 1 }
  run := { lastStep := 3, previousTime := 0.0, time := 0.0 }

def whole : Log Coupling × Except Fault Float × Schedule := (negotiate {} 0.5 start).follow reply

theorem compliant_reply {e : Exchange Coupling} (h : e = ⟨e.request, reply e.request⟩) :
    Compliant e := by
  rw [h]
  cases e.request <;> simp [Compliant, reply, Controller.echo]

theorem sound_reply {e : Exchange Coupling} (h : e = ⟨e.request, reply e.request⟩) :
    e.request.faults e.reply = false := by
  rw [h]
  cases e.request <;> rfl

theorem negotiate_settles_near :
    ∃ outcome, Dialogue start.session (0 + 1) 0.5 (messages whole.1) outcome ∧
      match outcome with
      | some chosen =>
        whole.2.1 = .ok chosen ∧ whole.2.2.session = entering start.session (0 + 1) chosen ∧
          ((0 : Int32) < Int32.maxValue → whole.2.2.run = start.run)
      | none =>
        whole.2.1 = .ok 1.0 ∧ whole.2.2.session = entering start.session (-1) 1.0 ∧
          (whole.2.2.run = if (3 : Int32) < Int32.maxValue ∧ (0 : Int32) ≤ 3 then
            start.run.scheduleStop (0 + 1) else start.run) ∧
          ((3 : Int32) < Int32.maxValue →
            (whole.2.2.run.lastStep.toInt = (0 : Int32).toInt + 1 ↔ (0 : Int32) ≤ 3)) := by
  have run : (negotiate {} 0.5).Runs start whole.1 whole.2.1 whole.2.2 :=
    Act.runs_follow (I := Coupling) reply _ _
  have answered {e : Exchange Coupling} (member : e ∈ whole.1) : e = ⟨e.request, reply e.request⟩ :=
    Program.mem_follow member
  have sound : ¬Faulty whole.1 := fun ⟨e, member, faults⟩ =>
    Bool.false_ne_true ((sound_reply (answered member)).symm.trans faults)
  exact (negotiate_settles run).2 rfl rfl rfl (fun e member => compliant_reply (answered member))
    sound

end NearPeer

end TimeStep

end FluidStructure.Coupling
