import GnssMonitor.Proofs.Command.Execution
import GnssMonitor.Proofs.Desk.Settled
import GnssMonitor.Proofs.Monitor.EventLoop
import GnssMonitor.Proofs.Session.Hooks
import GnssMonitor.Proofs.Session.Identification

/-! Monitoring with the handlers that are built in: neither packets nor commands lead to a receiver
that there is no handler for. -/

namespace GnssMonitor.Monitor

open Act (Obeys)
open Desk (Unmatched)

/-- The desk is settled, and the receiver is a known one if it is known at all. -/
structure Settled (m : Monitor) : Prop where
  desk : m.desk.Settled
  known : ∀ r ∈ m.session.device, r ∈ Receiver.all

/-- All stays settled, and no one is told that there is no handler. -/
abbrev Settles : Monitor → List Effect → Monitor → Prop := Act.Keeps Settled (¬ Unmatched ·)

/-- A packet that the hook is called with: it may go on, the selection succeeds, and the receiver
is one that sends such packets. -/
structure Handled (m : Monitor) : Prop where
  idle : m.desk.pending = none
  selected : (Desk.select m.session m.desk).value = .ok true
  sender : ∃ r, m.session.device = some r ∧ r.Sends m.session.framer.kind

/-- What the hook is called with when the device is read next. -/
def hookCalls (m : Monitor) : List Monitor :=
  (Session.intake .line (Session.recording Desk.takePacket) (m.1, m.2, [])).state.2.2

theorem line_other (es : List LineEffect) : ∀ e ∈ es.map Effect.line, ¬ Unmatched e := by
  simp [Unmatched]

/-- So far all is settled, and every packet has been handled. -/
structure Watched (w : Session × Desk × List Monitor) : Prop where
  settled : Settled (w.1, w.2.1)
  handled : ∀ call ∈ w.2.2, Settled call ∧ Handled call

abbrev Watches :
    Session × Desk × List Monitor → List Effect → Session × Desk × List Monitor → Prop :=
  Act.Keeps Watched (¬ Unmatched ·)

/-- What the hook is called with after a packet that the framer has cut. -/
theorem accept_handled {s : Session} {d : Desk} (settled : Settled (s, d)) {f : Framer}
    (cut : f.kind ≠ .bad) : Settled ((Session.accept { s with framer := f }).state, d) ∧
      Handled ((Session.accept { s with framer := f }).state, d) := by
  obtain ⟨r, sender, sends⟩ := Session.identify_sends (p := f.last) settled.known cut
  obtain ⟨_, _, _, _, said⟩ := Session.accept_state { s with framer := f }
  generalize (Session.accept { s with framer := f }).state = s' at said
  have device : s'.device = some r := by rw [said]; exact sender
  have framer : s'.framer = f := by rw [said]
  have known : ∀ r ∈ s'.device, r ∈ Receiver.all := by
    rw [device]
    rintro _ ⟨⟩
    exact sends.1
  refine ⟨⟨settled.desk, known⟩, settled.desk.idle, Desk.select_succeeds settled.desk known, ?_⟩
  exact ⟨r, device, framer.symm ▸ sends⟩

theorem takeIn_watches {f : Framer} (cut : f.kind ≠ .bad) (w : Session × Desk × List Monitor) :
    Obeys Watches w (Session.takeIn .line (Session.recording Desk.takePacket) f) := by
  obtain ⟨s, d, calls⟩ := w
  intro watched
  obtain ⟨settled, handled⟩ := accept_handled watched.settled cut
  have taken : Obeys Watches (s, d, calls)
      (Session.takeIn .line (Session.recording Desk.takePacket) f) := by
    refine Session.takeIn_obeys (fun _ => ⟨⟨settled, watched.handled⟩, line_other _⟩) fun _ => ?_
    rw [Session.runHook_apply]
    obtain ⟨desk, quiet⟩ := Desk.takePacket_settles settled.known d settled.desk
    refine ⟨⟨⟨desk, settled.known⟩, ?_⟩, quiet⟩
    exact List.forall_mem_append.mpr
      ⟨watched.handled, List.forall_mem_singleton.mpr ⟨settled, handled⟩⟩
  exact taken watched

theorem intake_watches (w : Session × Desk × List Monitor) :
    Obeys Watches w (Session.intake .line (Session.recording Desk.takePacket)) := by
  refine Session.intake_obeys (fun s t e _ watched => ⟨?_, by simp⟩)
    (fun s t f watched => ⟨?_, by simp⟩)
    fun f cut w => takeIn_watches (Session.batch_genuine _ f.last cut).kind_ne_bad w
  · exact ⟨⟨watched.settled.desk, watched.settled.known⟩, watched.handled⟩
  · exact ⟨⟨watched.settled.desk, watched.settled.known⟩, watched.handled⟩

/-- An intake does what it does with the calls of its hook recorded. -/
theorem intake_recorded (m : Monitor) : intake m =
    let r := Session.intake .line (Session.recording Desk.takePacket) (m.1, m.2, [])
    ⟨r.value, Session.withoutCalls r.state, r.effects⟩ :=
  Session.intake_recording Effect.line Desk.takePacket (m.1, m.2, [])

theorem intake_settles (m : Monitor) : Obeys Settles m intake := by
  intro settled
  obtain ⟨watched, quiet⟩ := intake_watches (m.1, m.2, []) ⟨settled, by simp⟩
  rw [intake_recorded]
  exact ⟨watched.settled, quiet⟩

/-- All is settled whenever the hook is called. -/
theorem hookCalls_settled {m : Monitor} (settled : m.Settled) :
    ∀ call ∈ m.hookCalls, Settled call ∧ Handled call :=
  (intake_watches (m.1, m.2, []) ⟨settled, by simp⟩).1.handled

theorem hookCalls_handled {m : Monitor} (settled : m.Settled) :
    ∀ call ∈ m.hookCalls, Handled call :=
  fun call there => (hookCalls_settled settled call there).2

variable {α : Type} {m : Monitor}

theorem onDesk_settles {x : Desk.Do α} (h : Obeys Desk.Settles m.desk x) :
    Obeys Settles m (onDesk x) := by
  intro settled
  obtain ⟨desk, quiet⟩ := h settled.desk
  refine ⟨⟨desk, settled.known⟩, ?_⟩
  rw [onDesk, Act.within_apply, List.map_id]
  exact quiet

theorem onSession_settles {x : Session.Do α}
    (same : (x m.session).state.device = m.session.device) : Obeys Settles m (onSession x) := by
  intro settled
  refine ⟨⟨settled.desk, ?_⟩, line_other _⟩
  intro r hr
  exact settled.known r (same ▸ hr)

theorem desk_settles {s : Session} {d d' : Desk} (h : d.Settled → d'.Settled) :
    Settles (s, d) [] (s, d') :=
  fun settled => ⟨⟨h settled.desk, settled.known⟩, by simp⟩

theorem modifyDesk_settles {f : Desk → Desk} (h : m.desk.Settled → (f m.desk).Settled) :
    Obeys Settles m (modifyDesk f) := desk_settles h

theorem permits_settles : Permits (fun _ => True) Settles where
  complains m _ other := fun settled => ⟨settled, by simpa using other⟩
  notes s d _ := desk_settles fun d => ⟨d.registry, d.idle, d.active⟩
  logs s d _ _ := desk_settles fun d => ⟨d.registry, d.idle, d.active⟩
  sends m _ _ _ := fun settled => ⟨settled, by simp [Unmatched]⟩
  settles m _ := fun settled => ⟨settled, by simp [Unmatched]⟩
  reboots m := fun settled => ⟨settled, by simp [Unmatched]⟩
  hooks m _ _ := fun settled => ⟨settled, by simp [Unmatched]⟩
  probes s d _ _ _ := fun settled => ⟨⟨settled.desk, settled.known⟩, by simp⟩
  recounts s d _ _ := fun settled => ⟨⟨settled.desk, settled.known⟩, by simp⟩
  remembers s d _ _ := desk_settles fun d => ⟨d.registry, d.idle, d.active⟩
  relines m line _ _ := by
    obtain ⟨_, _, kept⟩ := Session.setLine_relines line m.session
    exact onSession_settles (by rw [kept])
  switches m r known _ _ := onDesk_settles ((Desk.switchTo_switches _ _).settles known)
  forces s d r known _ _ := fun settled => ⟨⟨settled.desk, by rintro _ ⟨⟩; exact known⟩, by simp⟩
  forgets s d _ := desk_settles fun d => ⟨d.registry, d.idle, d.active⟩

theorem serves_settles : Serves Settles where
  asks m := fun settled => ⟨settled, by simp [Unmatched]⟩
  resumes m := fun settled => ⟨settled, by simp [Unmatched]⟩
  deafens m := modifyDesk_settles fun d => ⟨d.registry, d.idle, d.active⟩
  signals m := modifyDesk_settles fun d => ⟨d.registry, d.idle, d.active⟩
  intakes m := intake_settles m
  executes m _ _ := execute_obeys permits_settles (fun _ _ => trivial) m

theorem serveDevice_cause {m : Monitor} (settled : m.Settled) :
    (serveDevice m).value ≠ .ok (some .driverSwitch) := by
  intro h
  obtain ⟨status, _, h⟩ := Act.bind_value_ok.mp h
  have idle := (intake_settles m settled).1.desk.idle
  simp only [Act.get_bind, Act.pure_apply, Except.ok.injEq] at h
  rw [idle] at h
  exact ofIntake?_ne status h

theorem attend_cause {w : Wake} {m : Monitor} (settled : m.Settled) :
    (attend w m).value ≠ .ok (some .driverSwitch) := by
  intro h
  unfold attend at h
  simp only [Act.get_bind] at h
  split at h
  · cases h
  split at h
  · cases h
  split at h
  · obtain ⟨cause, served, h⟩ := Act.bind_value_ok.mp h
    cases cause with
    | some cause =>
      cases h
      exact serveDevice_cause settled served
    | none => cases serveOperator_cause h
  · cases serveOperator_cause h

theorem serve_cause {w : Wake} {m : Monitor} (settled : m.Settled) :
    (serve w m).value ≠ .ok (some .driverSwitch) := by
  unfold serve
  split
  · exact attend_cause ⟨⟨settled.desk.registry, settled.desk.idle, settled.desk.active⟩,
      settled.known⟩
  · exact attend_cause settled

/-- No turn of the loop ends the run for want of a handler. -/
theorem step_cause {wait : Wait} {m : Monitor} (settled : m.Settled) :
    (step wait m).value ≠ .ok (some .driverSwitch) := by
  intro h
  unfold step at h
  simp only [Act.get_bind] at h
  split at h
  · cases h
  split at h
  · cases h
  cases wait with
  | failed => cases h
  | broken e => cases h
  | woke w => exact serve_cause settled h

end GnssMonitor.Monitor
