import GnssMonitor.Proofs.Desk.Reporting

/-! The desk with the handlers that are built in: there is one for every receiver that is known,
so that no change of handlers fails. -/

namespace GnssMonitor

theorem Registry.resolve_builtIn : ∀ r ∈ Receiver.all,
    (Registry.builtIn.resolve r.name).isSome = true := by decide

theorem Registry.receiver_builtIn : ∀ h ∈ Registry.builtIn, h.receiver ∈ Receiver.all := by decide

theorem Registry.resolve_name : ∀ h ∈ Registry.builtIn,
    Registry.builtIn.resolve h.name = some h := by decide

theorem Registry.noRoom_other : ∀ h ∈ Registry.builtIn, ¬ Desk.Unmatched
    (.complain s!"{h.name} requires {h.columns}x{h.rows + 1} screen") := by
  simp [Desk.Unmatched, Registry.builtIn, Handler.panelFor, Handler.name, Receiver.nmea0183,
    Receiver.ashtech, Receiver.mtk3301, Receiver.sirf, Receiver.garmin, Receiver.fv18,
    Receiver.gpsClock, Receiver.aivdm, Receiver.relay, toString]

namespace Desk

open Act (Obeys)

/-- One of the built-in handlers is active or none, and no change has failed. -/
structure Settled (d : Desk) : Prop where
  registry : d.registry = Registry.builtIn
  idle : d.pending = none
  active : ∀ h ∈ d.active, h ∈ Registry.builtIn

/-- The desk stays settled, and no one is told that there is no handler. -/
abbrev Settles : Desk → List Effect → Desk → Prop := Act.Keeps Settled (¬ Unmatched ·)

theorem switching_other {r : Receiver} (known : r ∈ Receiver.all) {e : Effect}
    (h : Switching Registry.builtIn r e) : ¬ Unmatched e := by
  cases h with
  | shown h => cases e <;> simp_all [Unmatched, isShown]
  | notStarted => simp [Unmatched]
  | noRoom there => exact Registry.noRoom_other _ there
  | unmatched unknown =>
    have there := Registry.resolve_builtIn r known
    rw [unknown] at there
    contradiction

theorem OnlySwitches.settles {r : Receiver} (known : r ∈ Receiver.all) {d d' : Desk}
    {es : List Effect} (h : OnlySwitches r d es d') : Settles d es d' := by
  intro settled
  obtain ⟨⟨active, _, _, _, rfl, chosen⟩, heard⟩ := h
  rw [settled.registry] at chosen heard
  refine ⟨⟨settled.registry, settled.idle, ?_⟩, fun e he => switching_other known (heard e he)⟩
  obtain rfl | ⟨h, there, rfl⟩ := chosen
  · exact settled.active
  · rintro _ ⟨⟩
    exact there

theorem OnlyLogs.settles {d d' : Desk} {es : List Effect} (h : OnlyLogs d es d') :
    Settles d es d' := by
  obtain ⟨⟨_, rfl⟩, rfl⟩ := h
  exact fun settled => ⟨⟨settled.registry, settled.idle, settled.active⟩, by simp⟩

/-- The packet comes from a receiver that is known, if it is known from which. -/
theorem target_known {d : Desk} (settled : d.Settled) {s : Session}
    (known : ∀ r ∈ s.device, r ∈ Receiver.all) : d.target s ∈ Receiver.all := by
  have live : s.device.getD .nmea0183 ∈ Receiver.all := by
    cases device : s.device with
    | none => decide
    | some r => exact known r device
  unfold target
  cases active : d.active with
  | none => exact live
  | some h =>
    dsimp only
    split
    · exact Registry.receiver_builtIn h (settled.active h active)
    · exact live

/-- With the built-in handlers no selection fails. -/
theorem select_succeeds {d : Desk} (settled : d.Settled) {s : Session}
    (known : ∀ r ∈ s.device, r ∈ Receiver.all) : (select s d).value = .ok true := by
  have there := Registry.resolve_builtIn _ (target_known settled known)
  rw [select_value, settled.registry, there, Bool.or_true]

theorem reports_settles : Reports Settles where
  appends d text := fun settled => ⟨settled, by simp [Unmatched]⟩
  complains d _ other := fun settled => ⟨settled, by simpa using other⟩
  logs h := h.settles
  tracks d tracker := fun settled => ⟨⟨settled.registry, settled.idle, settled.active⟩, by simp⟩

theorem select_settles {s : Session} (known : ∀ r ∈ s.device, r ∈ Receiver.all) (d : Desk) :
    Obeys Settles d (select s) :=
  fun settled => (select_switches s d).settles (target_known settled known) settled

theorem takePacket_settles {s : Session} (known : ∀ r ∈ s.device, r ∈ Receiver.all) (d : Desk) :
    Obeys Settles d (takePacket s) := by
  intro settled
  have taken : Obeys Settles d (takePacket s) := by
    apply takePacket_obeys reports_settles (select_settles known d)
    intro failed
    rw [select_succeeds settled known] at failed
    simp at failed
  exact taken settled

theorem takePulse_settles (clock second : Binary64) (d : Desk) :
    Obeys Settles d (takePulse clock second) := takePulse_obeys reports_settles clock second d

end Desk
end GnssMonitor
