import FluidStructure.Proofs.Coupling.Rules

/-!
# How a sub-iteration is judged

The exchange of the convergence flag, told by what is heard in it: the sums of the residual, the
flag of the structure side, the status of the message to the peer, and the pair that rank 0 hands to
the group.  The peer is sent the own flag alone; the decision takes both flags, and that of rank 0
counts.
-/

namespace FluidStructure.Coupling

open FluidStructure.Channel FluidStructure.Journal

/-! ## Notices aside -/

/-- Is this a notice for the journal? -/
def Request.notes : Request → Bool
  | note _ => true
  | _ => false

theorem Request.shown?_of_notes {request : Request} (h : request.notes = true) :
    request.shown? = none := by
  cases request <;> first | rfl | cases h

/-- The exchanges that are no notices. -/
def said (log : Log Coupling) : Log Coupling := log.filter fun e => !e.request.notes

@[simp] theorem said_append (first second : Log Coupling) :
    said (first ++ second) = said first ++ said second := List.filter_append ..

theorem said_cons (e : Exchange Coupling) (log : Log Coupling) :
    said (e :: log) = (if e.request.notes then [] else [e]) ++ said log := by
  unfold said
  rw [List.filter_cons]
  cases e.request.notes <;> rfl

/-- What shows the session to the solver is no notice. -/
theorem mem_said_of_shown {e : Exchange Coupling} {log : Log Coupling} {s : Session}
    (member : e ∈ log) (shown : e.request.shown? = some s) : e ∈ said log := by
  refine List.mem_filter.2 ⟨member, ?_⟩
  cases noted : e.request.notes with
  | false => rfl
  | true =>
    rw [Request.shown?_of_notes noted] at shown
    cases shown

theorem said_of_noted {log : Log Coupling} (noted : Noted log) : said log = [] := by
  refine List.filter_eq_nil_iff.2 fun e member => ?_
  obtain ⟨notice, same⟩ := noted e member
  rw [same]
  exact Bool.false_ne_true

variable {α : Type} {log : Log Coupling}

theorem runs_noting_said {condition : Bool} {notice : Notice} {p : Program Coupling α} {value : α}
    (run : (noting condition notice p).Runs log value) :
    ∃ rest, p.Runs rest value ∧ said log = said rest ∧ ∀ e ∈ rest, e ∈ log := by
  obtain ⟨rest, rfl, onward⟩ := runs_noting.1 run
  refine ⟨rest, onward, ?_, fun e member => List.mem_append_right _ member⟩
  rw [said_append, said_of_noted (noted_notes _ _), List.nil_append]

/-! ## Flags for the peer -/

/-- The flag that an exchange sends to the peer. -/
def sentFlag : Exchange Coupling → Option (List Int32)
  | ⟨.sendInts _ _ name values, _⟩ => if name = Variable.convergence then some values else none
  | _ => none

/-- The flags that are sent to the peer, in order. -/
def sentFlags (log : Log Coupling) : List (List Int32) := log.filterMap sentFlag

@[simp] theorem sentFlags_append (first second : Log Coupling) :
    sentFlags (first ++ second) = sentFlags first ++ sentFlags second := List.filterMap_append ..

theorem sentFlags_said (log : Log Coupling) : sentFlags (said log) = sentFlags log := by
  induction log with
  | nil => rfl
  | cons e log ih =>
    have alone : sentFlags (if e.request.notes then [] else [e]) = sentFlags [e] := by
      obtain ⟨request, reply⟩ := e
      cases request <;> rfl
    rw [said_cons, sentFlags_append, ih, alone]
    exact (sentFlags_append [e] log).symm

/-! ## Verdicts -/

/-- What is heard when the flag is exchanged: the sums of the residual, the flag of the structure
side, the status of the message to the peer, and the pair that the group has from rank 0. -/
structure Verdict where
  sums : List Float
  peer : Bool
  status : Status
  shared : List Int32

namespace Verdict

variable (v : Verdict) (c : Controller)

/-- The distance of the displacement that has come from the predicted one. -/
def residual : Float :=
  Convergence.residualOf (v.sums.headD 0.0) (v.sums[1]?.getD 0.0) c.session.referenceLength

/-- The own flag: explicit coupling has always converged, implicit coupling once the residual is
within the tolerance. -/
def flag : Bool :=
  !c.session.isImplicit || decide (v.residual c ≤ c.session.parameters.tolerance)

/-- The own flag as a message. -/
def message : List Int32 := [if v.flag c then 1 else 0]

/-- Both flags together, as a number for the group. -/
def vote : Int32 := if v.flag c && v.peer then 1 else 0

/-- The status of the message, if there is one. -/
def outcome : Status := if c.session.isConnected && c.place.isRoot then v.status else Status.ok

/-- What the group does. -/
def decision : Bool := v.shared[0]?.getD (v.vote c) != 0

/-- The controller with the own flag. -/
def weighed : Controller :=
  c.assessed (v.flag c) (if c.session.isImplicit then v.residual c else c.lastResidual)

/-- The controller afterwards. -/
def after : Controller :=
  if Status.failed (v.shared[1]?.getD (v.outcome c)) then ((v.weighed c).heard v.peer).lost
  else (v.weighed c).heard v.peer

/-- The sums are asked for in implicit coupling only. -/
def summing : Log Coupling :=
  if c.session.isImplicit then
    [⟨.sumReals
      [Convergence.squaredDistance c.session.displacement c.session.predictedDisplacement,
        Float.ofNat (c.session.displacement.length / 3)], .ok v.sums⟩]
  else []

/-- The message goes out from rank 0, while the peer is there. -/
def sending : Log Coupling :=
  if c.session.isConnected && c.place.isRoot then
    [⟨.sendInts c.session.peer.root c.session.iteration Variable.convergence (v.message c),
      v.status⟩]
  else []

/-- All that is exchanged. -/
def exchanges : Log Coupling :=
  v.summing c ++ ⟨.peerConvergence (v.weighed c).session (v.flag c), .ok v.peer⟩ ::
    (v.sending c ++ [⟨.broadcastInts [v.vote c, v.outcome c], .ok v.shared⟩])

section Scheme

variable {v c}

theorem flag_of_implicit (h : c.session.isImplicit = true) :
    v.flag c = decide (v.residual c ≤ c.session.parameters.tolerance) := by
  unfold flag
  rw [h]
  rfl

theorem flag_of_explicit (h : ¬ c.session.isImplicit = true) : v.flag c = true := by
  unfold flag
  rw [Bool.eq_false_iff.2 h]
  rfl

theorem weighed_of_implicit (h : c.session.isImplicit = true) :
    v.weighed c =
      c.assessed (decide (v.residual c ≤ c.session.parameters.tolerance)) (v.residual c) := by
  unfold weighed
  rw [flag_of_implicit h, if_pos h]

theorem weighed_of_explicit (h : ¬ c.session.isImplicit = true) :
    v.weighed c = c.assessed true c.lastResidual := by
  unfold weighed
  rw [flag_of_explicit h, if_neg h]

end Scheme

/-- Where the group hands back what is there, the decision is that of both flags. -/
theorem decision_of_shared (own : v.shared = [v.vote c, v.outcome c]) :
    v.decision c = (v.flag c && v.peer) := by
  unfold decision
  rw [own]
  unfold vote
  cases v.flag c && v.peer <;> rfl

theorem sentFlags_exchanges : sentFlags (v.exchanges c) =
    if c.session.isConnected && c.place.isRoot then [v.message c] else [] := by
  have summing : sentFlags (v.summing c) = [] := by
    unfold Verdict.summing
    split <;> rfl
  unfold exchanges
  rw [sentFlags_append, summing, ← List.singleton_append, sentFlags_append, sentFlags_append]
  unfold sending
  cases c.session.isConnected && c.place.isRoot <;> rfl

/-- The solver is shown the session with the own flag. -/
theorem shown_exchanges {e : Exchange Coupling} {s : Session} (member : e ∈ v.exchanges c)
    (shown : e.request.shown? = some s) : s = (v.weighed c).session := by
  have quiet (log : Log Coupling) (h : log = v.summing c ∨ log = v.sending c) (here : e ∈ log) :
      False := by
    rcases h with rfl | rfl
    · unfold summing at here
      split at here
      · obtain rfl := List.mem_singleton.1 here
        cases shown
      · cases here
    · unfold sending at here
      split at here
      · obtain rfl := List.mem_singleton.1 here
        cases shown
      · cases here
  unfold exchanges at member
  rcases List.mem_append.1 member with here | here
  · exact (quiet _ (.inl rfl) here).elim
  rcases List.mem_cons.1 here with rfl | here
  · exact (Option.some.inj shown).symm
  rcases List.mem_append.1 here with here | here
  · exact (quiet _ (.inr rfl) here).elim
  · obtain rfl := List.mem_singleton.1 here
    cases shown

end Verdict

namespace Controller

variable {c d : Controller}

/-! ## The exchange of the flag -/

theorem runs_heed_said {status : Status} {during : String} {result : Except Fault Unit}
    (run : (heed status during).Runs c log result d) : said log = [] := by
  unfold Act.Runs at run
  rw [heed_apply] at run
  obtain ⟨rest, last, same, -⟩ := runs_noting_said run
  obtain ⟨rfl, -⟩ := Program.runs_done.1 last
  exact same

/-- The group is told the status of the message together with the vote. -/
theorem runs_agree {own peer : Bool} {status : Status} {result : Except Fault Bool}
    (run : (agree own peer status).Runs c log result d) (benign : ∀ e ∈ log, Benign e) :
    ∃ shared, result = .ok (shared[0]?.getD (if own && peer then 1 else 0) != 0) ∧
      said log = [⟨.broadcastInts [if own && peer then 1 else 0, status], .ok shared⟩] ∧
      d = if Status.failed (shared[1]?.getD status) then c.lost else c := by
  obtain ⟨reply, rest, rfl, answered⟩ := Program.runs_ask.1 run
  have here := (benign _ List.mem_cons_self).sound
  cases reply with
  | error fault => cases here
  | ok shared =>
    rcases Act.runs_bind.1 answered with ⟨heeding, _, e, _, rfl, heeded, last⟩ | ⟨_, -, heeded⟩
    · obtain ⟨-, -, rfl⟩ := runs_heed_mute heeded
      obtain ⟨rfl, rfl, rfl⟩ := Act.runs_pure.1 last
      refine ⟨shared, rfl, ?_, rfl⟩
      rw [said_cons, said_append, runs_heed_said heeded]
      rfl
    · cases (runs_heed_mute heeded).2.1

/-- The exchange of the flag once the own one is known. -/
theorem runs_flag_said {own : Bool} {result : Except Fault Bool}
    (run : (askPeerConvergence own >>= fun peer => sendConvergence own >>= agree own peer).Runs c
      log result d) (benign : ∀ e ∈ log, Benign e) :
    ∃ peer status shared,
      let told := if c.session.isConnected && c.place.isRoot then status else Status.ok
      let vote : Int32 := if own && peer then 1 else 0
      result = .ok (shared[0]?.getD vote != 0) ∧
      said log = ⟨.peerConvergence c.session own, .ok peer⟩ ::
        ((if c.session.isConnected && c.place.isRoot then
          [⟨.sendInts c.session.peer.root c.session.iteration Variable.convergence
            [if own then 1 else 0], status⟩] else []) ++
        [⟨.broadcastInts [vote, told], .ok shared⟩]) ∧
      d = if Status.failed (shared[1]?.getD told) then (c.heard peer).lost else c.heard peer := by
  unfold Act.Runs at run
  rw [askPeerConvergence_bind_apply] at run
  obtain ⟨reply, rest, rfl, answered⟩ := Program.runs_ask.1 run
  obtain ⟨peer, rfl⟩ := (benign _ List.mem_cons_self).asked _ _ _ rfl
  have later : ∀ e ∈ rest, Benign e := fun e member => benign e (List.mem_cons_of_mem _ member)
  rw [opening_ok, sendConvergence_bind_apply] at answered
  split at answered
  · rename_i sends
    have sends : (c.session.isConnected && c.place.isRoot) = true := sends
    obtain ⟨status, rest, rfl, agreed⟩ := Program.runs_ask.1 answered
    obtain ⟨shared, rfl, same, rfl⟩ := runs_agree agreed fun e member =>
      later e (List.mem_cons_of_mem _ member)
    refine ⟨peer, status, shared, ?_⟩
    rw [said_cons, said_cons, same, sends]
    exact ⟨rfl, rfl, rfl⟩
  · rename_i keeps
    have keeps : ¬ (c.session.isConnected && c.place.isRoot) = true := keeps
    obtain ⟨shared, rfl, same, rfl⟩ := runs_agree answered later
    refine ⟨peer, Status.ok, shared, ?_⟩
    rw [said_cons, same, if_neg keeps, if_neg keeps]
    exact ⟨rfl, rfl, rfl⟩

/-- Once the own flag is known, the rest of the verdict is heard. -/
theorem runs_flag_verdict (sums : List Float) {own : Bool} {e : Controller}
    {result : Except Fault Bool}
    (known : ∀ peer status shared,
      (⟨sums, peer, status, shared⟩ : Verdict).flag c = own ∧
      (⟨sums, peer, status, shared⟩ : Verdict).weighed c = e)
    (run : (askPeerConvergence own >>= fun peer => sendConvergence own >>= agree own peer).Runs e
      log result d) (benign : ∀ e ∈ log, Benign e) :
    ∃ v : Verdict, v.sums = sums ∧ result = .ok (v.decision c) ∧
      v.summing c ++ said log = v.exchanges c ∧ d = v.after c := by
  obtain ⟨peer, status, shared, same, heard, after⟩ := runs_flag_said run benign
  obtain ⟨rfl, rfl⟩ := known peer status shared
  refine ⟨⟨sums, peer, status, shared⟩, rfl, same, ?_, after⟩
  rw [heard]
  rfl

/-- The exchange of the flag comes to a verdict. -/
theorem runs_exchangeConvergence_verdict {result : Except Fault Bool}
    (turn : c.phase = .subIterating) (sound : c.Sound) (fair : c.Assessable)
    (run : exchangeConvergence.Runs c log result d) (benign : ∀ e ∈ log, Benign e) :
    ∃ v : Verdict, result = .ok (v.decision c) ∧ said log = v.exchanges c ∧ d = v.after c := by
  unfold Act.Runs at run
  rw [exchangeConvergence_apply c turn, onEvaluation_evaluate_bind_apply] at run
  split at run
  · rename_i implicit
    have fine : Convergence.checkOperands c.session.displacement c.session.predictedDisplacement
        c.session.referenceLength = .ok () := by
      rw [Convergence.checkOperands_of_sized sound.buffers]
      unfold Fault.require
      rw [decide_eq_true (fair implicit)]
      rfl
    rw [fine, opening_ok] at run
    obtain ⟨reply, rest, rfl, summed⟩ := Program.runs_ask.1 run
    have here := (benign _ List.mem_cons_self).sound
    cases reply with
    | error fault => cases here
    | ok sums =>
      obtain ⟨tail, flagged, same, within⟩ := runs_noting_said summed
      obtain ⟨v, rfl, decided, heard, rfl⟩ := runs_flag_verdict sums
        (fun _ _ _ => ⟨Verdict.flag_of_implicit implicit, Verdict.weighed_of_implicit implicit⟩)
        flagged fun e member => benign e (List.mem_cons_of_mem _ (within e member))
      refine ⟨v, decided, ?_, rfl⟩
      rw [said_cons, same, ← heard, Verdict.summing, if_pos implicit]
      rfl
  · rename_i explicit
    obtain ⟨v, -, decided, heard, rfl⟩ := runs_flag_verdict []
      (fun _ _ _ => ⟨Verdict.flag_of_explicit explicit, Verdict.weighed_of_explicit explicit⟩)
      run benign
    refine ⟨v, decided, ?_, rfl⟩
    rw [← heard, Verdict.summing, if_neg explicit, List.nil_append]

end Controller

end FluidStructure.Coupling
