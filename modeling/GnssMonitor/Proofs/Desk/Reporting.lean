import GnssMonitor.Monitor.EventLoop
import GnssMonitor.Proofs.Desk.Logging
import GnssMonitor.Proofs.Desk.Switching

/-! What the desk does with packets and pulses once a handler has been selected: it shows, logs and
tracks, and complains of ill-formed time reports. -/

namespace GnssMonitor.Desk

open Act (Obeys Composes)

/-- The relation allows what is shown, logged and tracked. -/
structure Reports (T : Desk → List Effect → Desk → Prop) : Prop where
  appends (d : Desk) (text : String) : T d [.append text] d
  complains (d : Desk) {text : String} (other : ¬ Unmatched (.complain text)) :
    T d [.complain text] d
  logs {d d' : Desk} {es : List Effect} (h : OnlyLogs d es d') : T d es d'
  tracks (d : Desk) (tracker : Tracker) : T d [] { d with tracker }

theorem take_notice (kind : TimeReportKind) (sample : TimeSample) (t : Tracker) :
    ∃ text, (t.take kind sample).2 = .report text := by
  cases kind <;> exact ⟨_, rfl⟩

theorem handle_notice {kind : TimeReportKind} {payload : Bytes} {t t' : Tracker} {text : String}
    {sample : Option TimeSample} (h : t.handle kind payload = .ok (t', .complain text, sample)) :
    ¬ Unmatched (.complain text) := by
  unfold Tracker.handle at h
  split at h
  · rename_i s _
    obtain ⟨text', told⟩ := take_notice kind s t
    simp [told] at h
  · split at h
    · simp only [Except.ok.injEq, Prod.mk.injEq, Notice.complain.injEq] at h
      rw [← h.2.1]
      simp [Unmatched, toString]
    · contradiction

variable {T : Desk → List Effect → Desk → Prop} [Composes T]

theorem report_obeys (p : Reports T) (text : String) (d : Desk) : Obeys T d (report text) := by
  have appended : Obeys T d (Act.emit (.append text)) := p.appends d text
  exact appended.bind fun _ _ => p.logs (writeLog_logs _ _)

theorem tell_obeys (p : Reports T) {notice : Notice}
    (other : ∀ text, notice = .complain text → ¬ Unmatched (.complain text)) (d : Desk) :
    Obeys T d (tell notice) := by
  cases notice with
  | report text => exact report_obeys p text d
  | complain text => exact p.complains d (other text rfl)

theorem latch_obeys (p : Reports T) (fixTime : Binary64) (d : Desk) :
    Obeys T d (latch fixTime) :=
  .get_bind ((Act.obeys_lift _).bind fun _ _ => p.tracks _ _)

theorem takeReport_obeys (p : Reports T) (kind : TimeReportKind) (payload : Bytes) (d : Desk) :
    Obeys T d (takeReport kind payload) := by
  refine .get_bind ((Act.obeys_lift _).bind fun answer handled => ?_)
  obtain ⟨tracker, notice, sample⟩ := answer
  have tracked : ∀ d, Obeys T d (modify fun d => { d with tracker }) :=
    fun d => p.tracks d tracker
  refine (tracked _).bind fun _ _ => tell_obeys p ?_ _
  rintro text rfl
  exact handle_notice handled

theorem record_obeys (p : Reports T) (s : Session) (d : Desk) : Obeys T d (record s) := by
  have logged : Obeys T d (logRaw s.framer.packet) := p.logs (logRaw_logs _ d)
  exact logged.bind fun _ _ => latch_obeys p _ _

theorem takePulse_obeys (p : Reports T) (clock second : Binary64) (d : Desk) :
    Obeys T d (takePulse clock second) := by
  refine (report_obeys p _ d).bind fun _ _ => .get_bind ?_
  have tracked : ∀ d tracker, Obeys T d (modify fun d => { d with tracker }) := p.tracks
  refine (tracked _ _).bind fun _ _ => tell_obeys p ?_ _
  rintro text ⟨⟩

/-- A packet that no handler could be selected for is the last one. -/
theorem takePacket_obeys (p : Reports T) {s : Session} {d : Desk} (selects : Obeys T d (select s))
    (gives_up : (select s d).value = .ok false →
      T (select s d).state [] { (select s d).state with pending := some .driverSwitch }) :
    Obeys T d (takePacket s) := by
  refine .get_bind (Act.obeys_ite (fun _ => Act.obeys_pure ()) fun _ => ?_)
  cases timeReport? s with
  | some kind =>
    cases kind with
    | toff => exact takeReport_obeys p _ _ d
    | pps => exact (takeReport_obeys p _ _ d).bind fun _ _ => record_obeys p s _
  | none =>
    refine selects.bind fun ready h => ?_
    cases ready with
    | true => exact (report_obeys p _ _).bind fun _ _ => record_obeys p s _
    | false => exact gives_up h

end GnssMonitor.Desk
