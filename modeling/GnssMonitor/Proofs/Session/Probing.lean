import GnssMonitor.Proofs.Session.Intake

/-! When a session asks who is there: after a packet that counts as the first, if asking is
allowed. -/

namespace GnssMonitor.Session

/-- What a write of each probe does to the endpoint. -/
def burst (s : Session) : List LineEffect := probes.flatMap fun bs => (write bs s).effects

/-- What is asked of the receivers once the latest packet has been taken note of. -/
def asked (s : Session) : List LineEffect := if s.Asks then s.burst else []

theorem writeAll_effects (frames : List Bytes) {s : Session} (present : s.endpoint.isSome) :
    (writeAll frames s).effects = frames.flatMap fun bs => (write bs s).effects := by
  induction frames with
  | nil => rfl
  | cons bs rest ih =>
    obtain ⟨n, written⟩ := write_answers bs present
    rw [writeAll, Act.bind_ok written, (write_sends bs s).1, ih, List.flatMap_cons]

variable {s s' : Session} {es : List LineEffect}

theorem accept_sends (s : Session) : ∀ e ∈ (accept s).effects, isOutput e = true := by
  match decoded : decode s.framer.last s.identified with
  | ⟨.error e, s', _⟩ => simp [accept_unread decoded]
  | ⟨.ok (), s', _⟩ =>
    rw [accept_read decoded]
    split
    · exact (writeAll_sends probes s').2
    · simp

theorem accept_asks (present : s.endpoint.isSome) (h : accept s = ⟨.ok (), s', es⟩) :
    es = s'.asked := by
  match decoded : decode s.framer.last s.identified with
  | ⟨.error e, s'', _⟩ => simp [accept_unread decoded] at h
  | ⟨.ok (), s'', _⟩ =>
    have there : s''.endpoint.isSome := by
      rw [(decode_kept decoded).1]
      exact present
    rw [accept_read decoded] at h
    by_cases asks : s''.Asks
    · simp only [if_pos asks] at h
      have same : s' = s'' := by
        rw [← (writeAll_sends probes s'').1, h]
      have sent := writeAll_effects probes there
      rw [h] at sent
      rw [asked, same, if_pos asks]
      exact sent
    · simp only [if_neg asks, Outcome.mk.injEq, true_and] at h
      obtain ⟨rfl, rfl⟩ := h
      rw [asked, if_neg asks]

/-- While asking is forbidden, a packet is only listened to. -/
theorem accept_passive (passive : s.readonly = true) : (accept s).effects = [] := by
  match decoded : decode s.framer.last s.identified with
  | ⟨.error e, s'', _⟩ => rw [accept_unread decoded]
  | ⟨.ok (), s'', _⟩ =>
    have still : s''.readonly = true := by
      rw [(decode_kept decoded).2]
      exact passive
    have forbidden : ¬ s''.Asks := by simp [Asks, still]
    rw [accept_read decoded]
    simp only [if_neg forbidden]

end GnssMonitor.Session
