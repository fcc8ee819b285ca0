import FluidStructure.Proofs.Coupling.Effects

/-!
# What a registration does

A registration is refused, or the group cannot sum its counts, or the interface is attached.
-/

namespace FluidStructure.Coupling

open FluidStructure.Channel FluidStructure.Journal

namespace Session

variable {s t : Session} {length : Float}

theorem checkRegistration_ok :
    s.checkRegistration length = .ok () ↔
      s.released = false ∧ s.surface? = none ∧ ¬ length ≤ 0.0 := by
  unfold checkRegistration isRegistered
  cases s.released <;> cases s.surface? <;> simp

theorem checkRegistration_error {fault : Fault} (check : s.checkRegistration length = .error fault) :
    fault = .sessionReleased ∨ fault = .geometryRegistered ∨ fault = .referenceLength length := by
  unfold checkRegistration at check
  split at check
  · exact .inl (Except.error.inj check).symm
  split at check
  · exact .inr (.inl (Except.error.inj check).symm)
  split at check
  · exact .inr (.inr (Except.error.inj check).symm)
  · cases check

/-- Had an interface, or cannot have one any more. -/
def Settled (s : Session) : Prop := s.isRegistered = true ∨ s.released = true

/-- A session gets no interface after its first, nor after its release. -/
theorem Settled.refuses (settled : s.Settled) (length : Float) :
    s.checkRegistration length =
      .error (if s.released then .sessionReleased else .geometryRegistered) := by
  unfold checkRegistration
  by_cases released : s.released = true
  · rw [if_pos released, if_pos released]
  · rw [if_neg released, if_neg released, if_pos (settled.resolve_right released)]

theorem not_settled_of_check (check : s.checkRegistration length = .ok ()) : ¬ s.Settled := by
  intro settled
  rw [settled.refuses length] at check
  cases check

/-- What becomes of a registration: its log, its outcome and the session that it leaves. -/
inductive Registration (place : Parallel.Place) (surface : Surface) (length : Float) (s : Session) :
    Log Coupling → Except Fault Unit → Session → Prop
  | refused (fault : Fault) (check : s.checkRegistration length = .error fault) :
    Registration place surface length s [] (.error fault) s
  | unsummed (fault : Fault) (check : s.checkRegistration length = .ok ()) :
    Registration place surface length s
      [⟨.sumCounts [Int64.ofNat surface.faceCount, Int64.ofNat surface.ownedVertices],
        .error fault⟩] (.error fault) (s.sized surface)
  | attached (counts : List Int64) (check : s.checkRegistration length = .ok ()) :
    Registration place surface length s
      (⟨.sumCounts [Int64.ofNat surface.faceCount, Int64.ofNat surface.ownedVertices],
          .ok counts⟩ ::
        if place.isRoot && s.isVerbose then
          [⟨.note (.interfaceRegistered (counts.headD 0) (counts[1]?.getD 0) length), ()⟩]
        else [])
      (.ok ()) ((s.sized surface).attach surface length (counts.headD 0) (counts[1]?.getD 0))

end Session

theorem runs_sumCounts {σ : Type} {values : List Int64} {s t : σ} {log : Log Coupling}
    {result : Except Fault (List Int64)}
    (run : (sumCounts values : Act Coupling σ (List Int64)).Runs s log result t) :
    log = [⟨.sumCounts values, result⟩] ∧ t = s := by
  rcases Act.runs_bind.1 run with ⟨first, reply, u, rest, rfl, asked, opened⟩ | ⟨fault, -, asked⟩
  · obtain ⟨_, rfl, answer, rfl⟩ := Act.runs_perform.1 asked
    obtain rfl := Except.ok.inj answer
    obtain ⟨rfl, rfl, rfl⟩ := Act.runs_ofExcept.1 opened
    exact ⟨rfl, rfl⟩
  · obtain ⟨_, -, wrong, -⟩ := Act.runs_perform.1 asked
    cases wrong

namespace Controller

variable {place : Parallel.Place} {surface : Surface} {length : Float} {s t : Session}
  {log : Log Coupling} {result : Except Fault Unit}

theorem runs_registration (run : (Session.register place surface length).Runs s log result t) :
    Session.Registration place surface length s log result t := by
  unfold Act.Runs Session.register at run
  rw [Act.get_bind_apply, ofExcept_bind_apply] at run
  rcases runs_opening.1 run with ⟨_, check, onward⟩ | ⟨fault, check, rfl, rfl, rfl⟩
  case inr => exact .refused fault check
  rw [Act.modify_bind_apply] at onward
  rcases Act.runs_bind.1 onward with
    ⟨first, counts, u, rest, rfl, summed, noting⟩ | ⟨fault, rfl, summed⟩
  · obtain ⟨rfl, rfl⟩ := runs_sumCounts summed
    unfold Act.Runs at noting
    dsimp only at noting
    rw [Act.modify_bind_apply, Act.get_bind_apply, noteIf_apply] at noting
    obtain ⟨last, rfl, ends⟩ := runs_noting.1 noting
    obtain ⟨rfl, same⟩ := Program.runs_done.1 ends
    obtain ⟨rfl, rfl⟩ := Prod.mk.inj same
    rw [List.append_nil]
    exact .attached counts check
  · obtain ⟨rfl, rfl⟩ := runs_sumCounts summed
    exact .unsummed fault check

/-- A registration that succeeds attaches the interface. -/
theorem runs_register
    (run : (Session.register place surface length).Runs s log (.ok ()) t) :
    ∃ faces vertices, t = (s.sized surface).attach surface length faces vertices := by
  cases runs_registration run with
  | attached counts => exact ⟨_, _, rfl⟩

/-- A registration that succeeds has passed its check. -/
theorem checked_of_register
    (run : (Session.register place surface length).Runs s log (.ok ()) t) :
    s.checkRegistration length = .ok () := by
  cases runs_registration run with
  | attached counts check => exact check

end Controller

end FluidStructure.Coupling
