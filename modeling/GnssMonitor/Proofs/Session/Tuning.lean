import GnssMonitor.Proofs.Session.Hooks
import GnssMonitor.Proofs.Session.Operating

/-! A session whose port is set as the session has it. New settings that a port knows are taken as a
whole or refused as a whole. -/

namespace GnssMonitor

theorem Endpoint.receive_kept (e : Endpoint) :
    e.receive.2.medium = e.medium ∧ e.receive.2.line = e.line := by
  unfold receive
  split
  · exact ⟨rfl, rfl⟩
  split
  · split <;> exact ⟨rfl, rfl⟩
  · split <;> exact ⟨rfl, rfl⟩

namespace Session

/-- There is a port, set as the session has it, and the settings are such as a port knows. -/
structure Tuned (s : Session) : Prop where
  port : ∃ e, s.port? = some e ∧ e.line = s.line
  known : s.line.Known

theorem port?_map {s : Session} {e : Endpoint} {f : Endpoint → Endpoint}
    (same : ∀ e, (f e).medium = e.medium) (port : s.port? = some e) :
    port? { s with endpoint := s.endpoint.map f } = some (f e) := by
  obtain ⟨present, medium⟩ := Option.filter_eq_some_iff.mp port
  unfold port?
  rw [present, Option.map_some, Option.filter_some, same, if_pos medium]

theorem Tuned.operable {s : Session} (tuned : s.Tuned) : s.Operable := by
  obtain ⟨⟨e, port, _⟩, known⟩ := tuned
  obtain ⟨present, _⟩ := Option.filter_eq_some_iff.mp port
  exact ⟨by rw [present]; rfl, known⟩

theorem opened_tuned (path : String) : (opened (.serial path)).Tuned where
  port := ⟨_, rfl, rfl⟩
  known := by
    have known : LineSettings.Known {} := ⟨by decide, by decide, by decide⟩
    exact known

theorem Tuned.of_same {s s' : Session} (tuned : s.Tuned) (endpoint : s'.endpoint = s.endpoint)
    (line : s'.line = s.line) : s'.Tuned := by
  obtain ⟨port, known⟩ := tuned
  unfold port? at port
  rw [← endpoint, ← line] at port
  exact ⟨port, line ▸ known⟩

theorem accept_tuned {s : Session} (tuned : s.Tuned) : (accept s).state.Tuned := by
  obtain ⟨_, _, _, _, said⟩ := accept_state s
  rw [said]
  exact tuned.of_same rfl rfl

/-- A port whose settings stay as they are stays in tune. -/
theorem Tuned.of_map {s : Session} (tuned : s.Tuned) {f : Endpoint → Endpoint}
    (same : ∀ e, (f e).medium = e.medium ∧ (f e).line = e.line) :
    Tuned { s with endpoint := s.endpoint.map f } := by
  obtain ⟨⟨e, port, agrees⟩, known⟩ := tuned
  exact ⟨⟨f e, port?_map (fun e => (same e).1) port, (same e).2.trans agrees⟩, known⟩

/-- A port takes settings that it knows, unless it refuses the speed. -/
theorem setLine_known {s : Session} {e : Endpoint} {line : LineSettings}
    (port : s.port? = some e) (known : line.Known) : setLine line s =
      if line.baud ∈ e.refused then ⟨.error (.refusedSpeed line.baud), s, []⟩
      else ⟨.ok (), { s with line, endpoint := some { e with line } }, [.baud line.baud]⟩ := by
  obtain ⟨length, sort, stops⟩ := known
  unfold setLine
  rw [Act.get_bind, port]
  by_cases refused : line.baud ∈ e.refused
  · simp [refused]
  · simp [refused, length, sort, stops, setPort]

theorem receive_tuned {s : Session} {e : Endpoint} (present : s.endpoint = some e)
    (tuned : s.Tuned) : Tuned { s with endpoint := some e.receive.2 } := by
  have heard := tuned.of_map Endpoint.receive_kept
  rw [present] at heard
  exact heard

end Session
end GnssMonitor
