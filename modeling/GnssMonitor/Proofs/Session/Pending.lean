import GnssMonitor.Proofs.Framing.Scan
import GnssMonitor.Proofs.Framing.Unfinished
import GnssMonitor.Proofs.Session.Intake

/-! What intakes leave in the framer. As long as nothing stops them, all that is left is what may
still become a packet, which is so little that no read makes the framer throw bytes away. -/

namespace GnssMonitor

/-- An intake to come: the endpoint as it is then, and the hook. -/
structure Intake (ε τ : Type) where
  endpoint : Endpoint
  hook : Session → Act ε τ Unit

namespace Session

open Framing

variable {ε τ : Type} (embed : LineEffect → ε)

/-- One intake after another. Between them anything may come in. -/
def intakes : List (Intake ε τ) → Act ε (Session × τ) Unit
  | [] => pure ()
  | r :: later => do
    onSession embed (modify fun s => { s with endpoint := some r.endpoint })
    let _ ← intake embed r.hook
    intakes later

variable {embed} {hook : Session → Act ε τ Unit} {s : Session} {t : τ} {e : Endpoint} {bs : Bytes}
  {readings before after : List (Intake ε τ)} {r : Intake ε τ}

theorem takeInBytes_framer (answered : (takeInBytes embed hook bs (s, t)).value = .ok ()) :
    (takeInBytes embed hook bs (s, t)).state.1.framer = (s.framer.feed bs).drain.2 := by
  rw [takeInBytes_apply] at answered ⊢
  obtain ⟨_, taken, _⟩ := Act.bind_value_ok.mp answered
  rw [Act.bind_ok taken]
  rfl

/-- An intake that reads nothing leaves the framer as it is, and one that reads something drains
it. -/
theorem intake_waits {status : IntakeStatus} (waits : verdict s.framer.pending = .wait)
    (answered : (intake embed hook (s, t)).value = .ok status) :
    verdict (intake embed hook (s, t)).state.1.framer.pending = .wait := by
  cases present : s.endpoint with
  | none => simp [intake, present] at answered
  | some e =>
    rw [intake_apply embed present] at answered ⊢
    rcases data : e.receive.1 with _ | _ | ⟨b, bs⟩
    · exact waits
    · exact waits
    · rw [data] at answered
      dsimp only at answered ⊢
      obtain ⟨_, taken, _⟩ := Act.bind_value_ok.mp answered
      rw [Act.bind_ok taken]
      change verdict (takeInBytes embed hook (b :: bs) _).state.1.framer.pending = .wait
      rw [takeInBytes_framer taken]
      exact Framer.drained_iff.mp (Framer.drain_drained _)

theorem intakes_cons (r : Intake ε τ) (later : List (Intake ε τ)) (s : Session) (t : τ) :
    intakes embed (r :: later) (s, t) = (intake embed r.hook >>= fun _ => intakes embed later)
      ({ s with endpoint := some r.endpoint }, t) := rfl

theorem intakes_append (before after : List (Intake ε τ)) (s : Session) (t : τ) :
    intakes embed (before ++ after) (s, t) =
      (intakes embed before >>= fun _ => intakes embed after) (s, t) := by
  induction before generalizing s t with
  | nil => rfl
  | cons r later ih =>
    rw [List.cons_append, intakes_cons]
    have split : intakes embed (later ++ after) =
        (intakes embed later >>= fun _ => intakes embed after : Act ε (Session × τ) Unit) :=
      funext fun w => ih w.1 w.2
    rw [split, ← Act.bind_assoc]
    rfl

/-- What a whole run answers, its front has answered. -/
theorem intakes_front (answered : (intakes embed (before ++ after) (s, t)).value = .ok ()) :
    (intakes embed before (s, t)).value = .ok () := by
  rw [intakes_append] at answered
  obtain ⟨_, first, _⟩ := Act.bind_value_ok.mp answered
  exact first

theorem intakes_waits (waits : verdict s.framer.pending = .wait)
    (answered : (intakes embed readings (s, t)).value = .ok ()) :
    verdict (intakes embed readings (s, t)).state.1.framer.pending = .wait := by
  induction readings generalizing s t with
  | nil => exact waits
  | cons r later ih =>
    rw [intakes_cons] at answered ⊢
    obtain ⟨status, first, more⟩ := Act.bind_value_ok.mp answered
    rw [Act.bind_ok first]
    exact ih (intake_waits (s := { s with endpoint := some r.endpoint }) waits first) more

/-- **The framer holds the start of one packet at most.** In a run of intakes that nothing stops,
each of them leaves nothing or the start of a packet that may still be finished, which is no longer
than a packet may be; so what is read next is all kept. -/
theorem intakes_leave_unfinished (empty : s.framer.pending = [])
    (answered : (intakes embed readings (s, t)).value = .ok ())
    (here : readings = before ++ r :: after) :
    let held := (intakes embed before (s, t)).state.1.framer
    let left := (intakes embed (before ++ [r]) (s, t)).state.1.framer.pending
    (∀ bs, r.endpoint.receive.1 = some bs →
      (held.pending ++ bs).length ≤ packetLimit * 2 ∧
        (held.feed bs).pending = held.pending ++ bs) ∧
      left.length ≤ packetLimit ∧ (left = [] ∨ Unfinished left) := by
  intro held left
  subst here
  have drained : verdict s.framer.pending = .wait := by
    rw [empty]
    rfl
  have waits : verdict held.pending = .wait := intakes_waits drained (intakes_front answered)
  refine ⟨fun bs read => ?_, ?_⟩
  · have short := verdict_wait waits
    have few : bs.length ≤ packetLimit :=
      Nat.le_trans (Endpoint.receive_length read) (by decide : Endpoint.readSize ≤ packetLimit)
    refine ⟨?_, Framer.feed_small waits few⟩
    rw [List.length_append]
    omega
  · rw [List.append_cons] at answered
    have waits' : verdict left = .wait := intakes_waits drained (intakes_front answered)
    exact ⟨verdict_wait waits', verdict_wait_iff.mp waits'⟩

/-- A frame without payload comes in two pieces, and behind it the start of a sentence. -/
theorem intakes_leave_unfinished_of_frame :
    let s := Session.opened (.relay Source.defaultHost Source.defaultPort none)
    let pieces : List (Intake LineEffect Unit) :=
      [⟨socketWith [0x58, 0xa0, 0xa2, 0], deaf⟩, ⟨socketWith [0, 0, 0, 0xb0, 0xb3, 0x24], deaf⟩]
    let left (n : Nat) := (intakes id (pieces.take n) (s, ())).state.1.framer.pending
    s.framer.pending = [] ∧ (intakes id pieces (s, ())).value = .ok () ∧
      left 1 = [0xa0, 0xa2, 0] ∧ left 2 = [0x24] ∧ Unfinished (left 1) ∧ Unfinished (left 2) := by
  intro s pieces left
  obtain ⟨⟨⟩, answered, -⟩ := Act.exists_ok (p := fun _ => true)
    (by decide +kernel : (intakes id pieces (s, ())).value.toOption.any (fun _ => true) = true)
  have first : left 1 = [0xa0, 0xa2, 0] := by decide +kernel
  have second : left 2 = [0x24] := by decide +kernel
  have front : pieces = [] ++ ⟨socketWith [0x58, 0xa0, 0xa2, 0], deaf⟩ :: pieces.drop 1 := rfl
  have back : pieces = pieces.take 1 ++
      ⟨socketWith [0, 0, 0, 0xb0, 0xb3, 0x24], deaf⟩ :: pieces.drop 2 := rfl
  have header := (intakes_leave_unfinished rfl answered front).2.2
  have sentence := (intakes_leave_unfinished rfl answered back).2.2
  change left 1 = [] ∨ Unfinished (left 1) at header
  change left 2 = [] ∨ Unfinished (left 2) at sentence
  rw [first] at header ⊢
  rw [second] at sentence ⊢
  exact ⟨rfl, answered, rfl, rfl, header.resolve_left (by decide),
    sentence.resolve_left (by decide)⟩

end Session
end GnssMonitor
