import GnssMonitor.Session

/-! Who is taken for the sender of a packet: a receiver that is known, and that speaks the
packet's kind unless it is a sticky one that has fallen back to sentences. -/

namespace GnssMonitor

/-- The receiver may have sent packets of the kind. -/
def Receiver.Sends (r : Receiver) (kind : PacketKind) : Prop :=
  r ∈ Receiver.all ∧ (r.kind = kind ∨ r.sticky = true ∧ kind = .nmea)

instance (r : Receiver) (kind : PacketKind) : Decidable (r.Sends kind) :=
  inferInstanceAs (Decidable (r ∈ Receiver.all ∧ (r.kind = kind ∨ r.sticky = true ∧ kind = .nmea)))

theorem Receiver.sends_of_trigger : ∀ r ∈ Receiver.all, r.trigger.isSome → r.Sends .nmea := by
  decide

theorem Receiver.sends_of_recognises {r : Receiver} (known : r ∈ Receiver.all) {bs : Bytes}
    (h : r.recognises bs = true) : r.Sends .nmea := by
  refine sends_of_trigger r known ?_
  unfold recognises at h
  cases trigger : r.trigger with
  | none => simp [trigger] at h
  | some t => rfl

namespace Session

theorem identify_nmea {kept : Receiver} (h : kept.Sends .nmea) (bs : Bytes) :
    (Receiver.all.foldl (fun r known => if known.recognises bs then known else r) kept).Sends
      .nmea := by
  refine List.foldlRecOn (motive := fun r : Receiver => r.Sends .nmea) Receiver.all _ h
    fun r hr known hk => ?_
  split
  · exact Receiver.sends_of_recognises hk ‹_›
  · exact hr

/-- What the framer cuts tells who sent it. -/
theorem identify_sends {current : Option Receiver} {p : Packet}
    (known : ∀ r ∈ current, r ∈ Receiver.all) (cut : p.kind ≠ .bad) :
    ∃ r, identify current p = some r ∧ r.Sends p.kind := by
  obtain ⟨kind, bs⟩ := p
  cases kind with
  | bad => contradiction
  | sirf => exact ⟨.sirf, rfl, (by decide : Receiver.sirf.Sends .sirf)⟩
  | json => exact ⟨.relay, rfl, (by decide : Receiver.relay.Sends .json)⟩
  | nmea =>
    refine ⟨_, rfl, identify_nmea ?_ bs⟩
    have plain : Receiver.nmea0183.Sends .nmea := by decide
    cases current with
    | none => exact plain
    | some r =>
      dsimp only
      split
      · rename_i speaks
        have speaks : r.sticky = true ∨ r.kind = .nmea := by simpa using speaks
        exact ⟨known r rfl, speaks.elim (fun h => .inr ⟨h, rfl⟩) .inl⟩
      · exact plain

end Session
end GnssMonitor
