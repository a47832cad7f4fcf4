import GnssMonitor.Proofs.Desk.Line
import GnssMonitor.Proofs.Monitor.Runs
import GnssMonitor.Proofs.Session.Probing

/-! A receiver behind a relay is listened to and never spoken to: device commands need a serial
line, and no packet is answered while asking is forbidden. -/

namespace GnssMonitor

open Act (Obeys)

namespace Monitor

/-- The receiver is behind a relay, and asking is forbidden. -/
structure Relayed (m : Monitor) : Prop where
  relayed : m.session.source.isSerial = false
  passive : m.session.readonly = true

/-- The monitor stays behind the relay, and nothing is done to the line. -/
abbrev Hushes : Monitor → List Effect → Monitor → Prop := Act.Keeps Relayed (·.line? = none)

/-- The monitor stays behind the relay, and nothing is written. -/
abbrev Mutes : Monitor → List Effect → Monitor → Prop :=
  Act.Keeps Relayed fun e => ∀ bs, e ≠ .line (.write bs)

variable {m m' : Monitor} {es : List Effect}

theorem Hushes.mutes (h : Hushes m es m') : Mutes m es m' := by
  intro here
  obtain ⟨still, off⟩ := h here
  refine ⟨still, ?_⟩
  rintro e he bs rfl
  have other := off _ he
  contradiction

theorem hushes_of_serial (serial : m.session.source.isSerial = true) : Hushes m es m' := by
  intro here
  have relayed := here.relayed
  rw [serial] at relayed
  contradiction

theorem hushes_of_desk {s : Session} {d d' : Desk} (off : onLine es = []) :
    Hushes (s, d) es (s, d') :=
  fun here => ⟨⟨here.relayed, here.passive⟩, onLine_eq_nil.mp off⟩

theorem hushes_of_silence {s s' : Session} {d : Desk} (source : s'.source = s.source)
    (readonly : s'.readonly = s.readonly) : Hushes (s, d) [] (s', d) := by
  intro here
  refine ⟨⟨?_, ?_⟩, by simp⟩
  · exact source ▸ here.relayed
  · exact readonly ▸ here.passive

theorem onDesk_hushes {α : Type} {x : Desk.Do α} (off : Obeys Desk.KeepsOff m.desk x) :
    Obeys Hushes m (onDesk x) := by
  unfold Obeys onDesk
  rw [Act.within_apply, List.map_id]
  exact hushes_of_desk off

theorem modifyDesk_hushes (f : Desk → Desk) (m : Monitor) : Obeys Hushes m (modifyDesk f) :=
  hushes_of_desk rfl

theorem permits_hushes : Permits (fun _ => True) Hushes where
  complains _ _ _ := hushes_of_desk rfl
  notes _ _ _ := hushes_of_desk rfl
  logs _ _ _ _ := hushes_of_desk rfl
  sends _ _ serial _ := hushes_of_serial serial
  settles _ serial := hushes_of_serial serial
  reboots _ := hushes_of_desk rfl
  hooks _ _ _ := hushes_of_desk rfl
  probes _ _ _ serial _ := hushes_of_serial serial
  recounts _ _ serial _ := hushes_of_serial serial
  remembers _ _ _ _ := hushes_of_desk rfl
  relines _ _ serial _ := hushes_of_serial serial
  switches _ _ _ serial _ := hushes_of_serial serial
  forces _ _ _ _ serial _ := hushes_of_serial serial
  forgets _ _ _ := hushes_of_desk rfl

theorem intakes_hushes : Intakes Hushes where
  reads _ _ _ _ := hushes_of_silence rfl rfl
  frames _ _ _ := hushes_of_silence rfl rfl
  accepts s _ := by
    intro here
    obtain ⟨_, _, _, _, said⟩ := Session.accept_state s
    rw [said, Session.accept_passive (s := s) here.passive]
    exact hushes_of_silence (s := s) rfl rfl here
  takes s d := hushes_of_desk (Desk.takePacket_keepsOff s d)

theorem serves_hushes : Serves Hushes where
  asks _ := hushes_of_desk rfl
  resumes _ := hushes_of_desk rfl
  deafens m := modifyDesk_hushes _ m
  signals m := modifyDesk_hushes _ m
  intakes := intakes_hushes.intake
  executes m _ _ := execute_obeys permits_hushes (fun _ _ => trivial) m

theorem onEndpoint_hushes (f : Endpoint → Endpoint) (m : Monitor) :
    Obeys Hushes m (onEndpoint f) := hushes_of_silence rfl rfl

theorem passes_hushes : Passes Hushes where
  reaches f m _ := onEndpoint_hushes f m
  surrounds _ _ _ _ _ _ := hushes_of_desk rfl
  pulses clock second m :=
    onDesk_hushes (Desk.takePulse_obeys Desk.reports_keepsOff clock second m.desk)

theorem meet_hushes (h : Happening) (m : Monitor) : Obeys Hushes m (meet h) :=
  passes_hushes.meet_any serves_hushes h m

/-- The socket is closed at the end, with no more written to it. -/
theorem shutDown_mutes (cause : Cause) (m : Monitor) : Obeys Mutes m (shutDown cause) := by
  have closed : Obeys Mutes m (onSession Session.close) := by
    intro here
    unfold onSession Session.onSession
    rw [Act.within_apply, Session.close_apply]
    refine ⟨⟨here.relayed, here.passive⟩, ?_⟩
    split <;> simp
  have stopped : ∀ m, Obeys Mutes m (Act.emit .stop) := fun m here => ⟨here, by simp⟩
  refine closed.bind fun _ _ => ?_
  refine Obeys.bind (onDesk_hushes (Desk.closeLog_logs _).keepsOff).mutes fun _ _ => ?_
  exact (stopped _).bind fun _ _ => Act.obeys_pure _

theorem Reachable.relayed {start : Monitor} (relayed : start.Relayed) (run : Reachable start m) :
    m.Relayed := by
  induction run with
  | start => exact relayed
  | meet h _ ih => exact (meet_hushes h _ ih).1

end Monitor

namespace Run

/-- The bytes written to the source, if the effect is that. -/
def written? : RunEffect → Option Bytes
  | .line (.write bs) => some bs
  | _ => none

/-- All that is written to the source, in order. -/
def written (es : List RunEffect) : List Bytes := es.filterMap written?

@[simp] theorem written_nil : written [] = [] := rfl

@[simp] theorem written_append (es es' : List RunEffect) :
    written (es ++ es') = written es ++ written es' := List.filterMap_append

theorem written_eq_nil {es : List RunEffect} : written es = [] ↔ ∀ e ∈ es, written? e = none :=
  List.filterMap_eq_nil_iff

/-- The run stays behind the relay, and nothing is written. -/
abbrev Hushes : Run → List RunEffect → Run → Prop :=
  Act.Keeps (·.monitor.Relayed) (written? · = none)

theorem perform_hushes {e : Effect} (other : ∀ bs, e ≠ .line (.write bs)) (typed : Typed)
    (r : Run) : Obeys Hushes r (perform typed e) := by
  have shown : ∀ x : Display.Do Unit, Obeys Hushes r (onDisplay x) := by
    intro x here
    refine ⟨here, ?_⟩
    simp [onDisplay, written?]
  cases e with
  | line l =>
    intro here
    refine ⟨here, ?_⟩
    cases l <;> simp_all [perform, written?]
  | pause p => exact fun here => ⟨here, by simp [perform, written?]⟩
  | _ => exact shown _

theorem performAll_hushes {effects : List Effect}
    (other : ∀ e ∈ effects, ∀ bs, e ≠ .line (.write bs))
    (typed : Typed) (r : Run) : Obeys Hushes r (performAll typed effects) :=
  performAll_obeys (fun e there => perform_hushes (other e there) typed) r

variable {α : Type}

/-- What monitoring does without a write is shown without one. -/
theorem onMonitor_hushes {x : Monitor.Do α} {r : Run}
    (quiet : Obeys Monitor.Mutes r.monitor x) (typed : Typed) :
    Obeys Hushes r (onMonitor typed x) := by
  intro here
  obtain ⟨still, other⟩ := quiet here
  exact performAll_hushes other typed { r with monitor := (x r.monitor).state } still

theorem emit_hushes {e : RunEffect} (other : written? e = none) (r : Run) :
    Obeys Hushes r (Act.emit e) :=
  fun here => ⟨here, by simpa using other⟩

theorem modifySession_hushes {f : Session → Session} (source : ∀ s, (f s).source = s.source)
    (readonly : ∀ s, (f s).readonly = s.readonly) (r : Run) :
    Obeys Hushes r (modifySession f) := by
  intro here
  refine ⟨⟨?_, ?_⟩, by simp [modifySession]⟩
  · exact (congrArg Source.isSerial (source r.monitor.1)).trans here.relayed
  · exact (readonly r.monitor.1).trans here.passive

theorem modifyDesk_hushes (f : Desk → Desk) (r : Run) : Obeys Hushes r (modifyDesk f) :=
  fun here => ⟨⟨here.relayed, here.passive⟩, by simp [modifyDesk]⟩

theorem await_hushes (o : Occurrence) (r : Run) : Obeys Hushes r (await o) := by
  refine (emit_hushes rfl r).bind fun _ _ => ?_
  cases o with
  | scene x =>
    have heard : Obeys Hushes r
        (modifySession fun s => { s with endpoint := s.endpoint.map x.endpoint }) := by
      apply modifySession_hushes <;> exact fun _ => rfl
    refine heard.bind fun _ _ => ?_
    exact (modifyDesk_hushes _ _).bind fun _ _ => .get_bind (Act.obeys_pure _)
  | _ => exact Act.obeys_pure _

theorem turn_hushes (o : Occurrence) (r : Run) : Obeys Hushes r (turn o) := by
  refine turn_obeys (fun _ => ?_) (modifyDesk_hushes fun d => { d with signalled := true })
  refine (await_hushes o r).bind fun wait _ => ?_
  exact onMonitor_hushes (Monitor.step_obeys Monitor.serves_hushes wait _).mutes _

theorem loop_hushes (script : List Occurrence) (r : Run) : Obeys Hushes r (loop script) :=
  loop_obeys turn_hushes script r

theorem onDisplay_hushes (x : Display.Do α) (r : Run) : Obeys Hushes r (onDisplay x) := by
  intro here
  exact ⟨here, by simp [onDisplay, written?]⟩

theorem watch_hushes (script : List Occurrence) (r : Run) : Obeys Hushes r (watch script) := by
  have started : Obeys Hushes r startUp := by
    refine (emit_hushes rfl r).bind fun _ _ => .get_bind ?_
    exact onDisplay_hushes _ _
  refine started.bind fun there _ => ?_
  cases there with
  | true => exact loop_hushes script _
  | false => exact Act.obeys_pure _

theorem onDesk_hushes {x : Desk.Do α} {r : Run} (off : Obeys Desk.KeepsOff r.monitor.desk x) :
    Obeys Hushes r (onMonitor {} (Monitor.onDesk x)) :=
  onMonitor_hushes (Monitor.onDesk_hushes off).mutes {}

theorem conclude_hushes (cause : Cause) (r : Run) : Obeys Hushes r (conclude cause) := by
  refine (onMonitor_hushes (Monitor.shutDown_mutes cause _) {}).bind fun explanation _ => ?_
  refine (emit_hushes rfl _).bind fun _ _ => ?_
  cases explanation with
  | none => exact Act.obeys_pure _
  | some text => exact (emit_hushes rfl _).bind fun _ _ => Act.obeys_pure _

theorem abandon_hushes (r : Run) : Obeys Hushes r abandon := by
  have closed : Obeys Hushes r closeLog := onDesk_hushes (Desk.closeLog_logs _).keepsOff
  refine closed.bind fun _ _ => (onDisplay_hushes _ _).bind fun _ _ => ?_
  refine (emit_hushes rfl _).bind fun _ _ => (emit_hushes rfl _).bind fun _ _ => ?_
  exact Act.obeys_pure _

theorem conduct_hushes (script : List Occurrence) (r : Run) : Obeys Hushes r (conduct script) := by
  have watched : Obeys Hushes r (Act.attempt (watch script)) := watch_hushes script r
  refine watched.bind fun ended _ => ?_
  unfold finish
  split
  · exact conclude_hushes _ _
  · exact abandon_hushes _
  · exact conclude_hushes _ _

end Run

namespace Monitor

/-- **A relay is only listened to.** Whatever it sends and whatever the operator types, in
whatever order, asking stays forbidden and nothing is done to the line: not by what happens next,
not by the next command, and not by a loop that goes on from here to its end, where the socket is
closed with no more written to it. -/
theorem relay_only_heard {start m : Monitor} (relayed : start.Relayed)
    (run : Reachable start m) :
    m.session.readonly = true ∧ (∀ h, onLine (meet h m).effects = []) ∧
      (∀ line, onLine (execute line m).effects = []) ∧
      ∀ display script, (Run.conduct script ⟨m, display⟩).state.monitor.session.readonly = true ∧
        Run.written (Run.conduct script ⟨m, display⟩).effects = [] := by
  have here := run.relayed relayed
  refine ⟨here.passive, ?_, ?_, ?_⟩
  · intro h
    exact onLine_eq_nil.mpr (meet_hushes h m here).2
  · intro line
    exact onLine_eq_nil.mpr (execute_obeys permits_hushes (fun _ _ => trivial) m here).2
  · intro display script
    obtain ⟨still, silent⟩ := Run.conduct_hushes script ⟨m, display⟩ here
    exact ⟨still.passive, Run.written_eq_nil.mpr silent⟩

/-- A relay through which an Ashtech receiver has told who it is, so that N is a private
command. -/
theorem relay_only_heard_of_ashtech :
    let start : Monitor :=
      (Session.opened (.relay "localhost" "2947" none), { hostname := "localhost" })
    let told := (meet (.arrives (.bytes (Bytes.ofString "$PASHR,RID,1*36\n"))) start).state
    let m := (meet (.turn (.woke { deviceReady := true })) told).state
    start.Relayed ∧ Reachable start m ∧ m.desk.active = some (Handler.panelFor .ashtech true) ∧
      m.session.readonly = true ∧ onLine (execute "N" m).effects = [] := by
  intro start told m
  have relayed : start.Relayed := ⟨rfl, rfl⟩
  have run : Reachable start m := .meet _ (.meet _ .start)
  have active : m.desk.active = some (Handler.panelFor .ashtech true) := by decide +kernel
  obtain ⟨passive, _, silent, _⟩ := relay_only_heard relayed run
  exact ⟨relayed, run, active, passive, silent "N"⟩

end Monitor
end GnssMonitor
