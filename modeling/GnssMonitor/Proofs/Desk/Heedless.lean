import GnssMonitor.Monitor.EventLoop
import GnssMonitor.Proofs.Act

/-! What is done with packets and pulses has nothing to do with signals. -/

namespace GnssMonitor.Desk

open Act (Blind)

/-- The desk, as if a signal had come or not. -/
def withSignal (b : Bool) (d : Desk) : Desk := { d with signalled := b }

/-- Whether a signal has come makes no difference. -/
abbrev Heedless (b : Bool) {α : Type} (x : Do α) : Prop := Blind (withSignal b) x

variable {b : Bool}

theorem onLog_heedless {α : Type} (f : Logbook → Except Fault α × Logbook) : Heedless b (onLog f) :=
  fun _ => rfl

theorem complain_heedless (text : String) : Heedless b (complain text) := Act.blind_emit _

theorem report_heedless (text : String) : Heedless b (report text) :=
  (Act.blind_emit _).bind fun _ => onLog_heedless _

theorem logRaw_heedless (bs : Bytes) : Heedless b (logRaw bs) := by
  unfold logRaw
  split
  · exact Act.blind_pure ()
  · exact onLog_heedless _

theorem openLog_heedless (path : String) (mode : OpenMode) : Heedless b (openLog path mode) := by
  refine (onLog_heedless _).bind fun _ => Act.blind_ite ?_ (onLog_heedless _)
  exact (Act.blind_throw _).bind fun _ => onLog_heedless _

theorem tell_heedless (notice : Notice) : Heedless b (tell notice) := by
  cases notice with
  | report text => exact report_heedless text
  | complain text => exact complain_heedless text

theorem takeReport_heedless (kind : TimeReportKind) (payload : Bytes) :
    Heedless b (takeReport kind payload) := by
  refine Act.blind_get_bind (fun _ => rfl) fun d => (Act.blind_lift _).bind fun taken => ?_
  obtain ⟨tracker, notice, _⟩ := taken
  exact Act.Blind.bind (Act.blind_modify fun _ => rfl) fun _ => tell_heedless _

theorem latch_heedless (fixTime : Binary64) : Heedless b (latch fixTime) := by
  refine Act.blind_get_bind (fun _ => rfl) fun d => (Act.blind_lift _).bind fun latched => ?_
  obtain ⟨tracker, _⟩ := latched
  exact Act.blind_modify fun _ => rfl

theorem setPanel_heedless (name : String) (p : Panel) : Heedless b (setPanel name p) :=
  Act.blind_modify fun _ => rfl

theorem drawAll_heedless (ops : List WindowOp) : Heedless b (drawAll ops) := by
  refine Act.blind_get_bind (fun _ => rfl) fun d => ?_
  cases d.surface.window with
  | none => exact Act.blind_pure ()
  | some w => exact fun _ => rfl

theorem enter_heedless (h : Handler) : Heedless b (enter h) := by
  unfold enter
  cases h.enters with
  | none => exact Act.blind_pure true
  | some answer =>
    refine (Act.blind_emit _).bind fun _ => ?_
    cases h.presentation with
    | hooks => exact (Act.blind_pure ()).bind fun _ => Act.blind_pure answer
    | panel =>
      refine Act.blind_get_bind (fun _ => rfl) fun d => ?_
      exact (setPanel_heedless _ _).bind fun _ => Act.blind_pure answer

theorem leave_heedless (h : Handler) : Heedless b (leave h) := by
  refine Act.blind_ite ((Act.blind_emit _).bind fun _ => ?_) (Act.blind_pure ())
  cases h.presentation with
  | hooks => exact Act.blind_pure ()
  | panel => exact drawAll_heedless _

theorem showPacket_heedless (h : Handler) (s : Session) : Heedless b (showPacket h s) := by
  refine Act.blind_ite ((Act.blind_emit _).bind fun _ => ?_) (Act.blind_pure ())
  cases h.presentation with
  | hooks => exact Act.blind_pure ()
  | panel =>
    refine Act.blind_get_bind (fun _ => rfl) fun d => ?_
    cases (d.panel h.name).update s.framer.last s.fields s.sentence d.clock with
    | none => exact Act.blind_pure ()
    | some p => exact (setPanel_heedless _ _).bind fun _ => drawAll_heedless _

theorem layOut_heedless (rows : Int) : Heedless b (layOut rows) :=
  (Act.blind_emit _).bind fun _ => Act.blind_modify fun _ => rfl

theorem occupy_heedless (h : Handler) (s : Session) : Heedless b (occupy h s) := by
  have shown : Heedless b (do Act.emit (.status ((← get).statusText s))) :=
    Act.blind_get_bind (fun _ => rfl) fun _ => Act.blind_emit _
  refine Act.Blind.bind (Act.blind_modify fun _ => rfl) fun _ => (Act.blind_emit _).bind fun _ => ?_
  refine (layOut_heedless h.rows).bind fun _ => (enter_heedless h).bind fun started => ?_
  exact Act.blind_ite ((complain_heedless _).bind fun _ => shown) shown

theorem install_heedless (h : Handler) (s : Session) : Heedless b (install h s) := by
  refine Act.blind_get_bind (fun _ => rfl) fun d => ?_
  cases d.active with
  | none => exact occupy_heedless h s
  | some old => exact (leave_heedless old).bind fun _ => occupy_heedless h s

theorem switchTo_heedless (r : Receiver) (s : Session) : Heedless b (switchTo r s) := by
  refine Act.blind_get_bind (fun _ => rfl) fun d => ?_
  cases d.registry.resolve r.name with
  | none => exact (complain_heedless _).bind fun _ => Act.blind_pure false
  | some h =>
    refine Act.blind_ite ?_ ?_
    · exact (install_heedless h s).bind fun _ => Act.blind_pure true
    · exact (complain_heedless _).bind fun _ => Act.blind_pure true

theorem follow_heedless (s : Session) : Heedless b (follow s) :=
  Act.blind_get_bind (fun _ => rfl) fun _ =>
    Act.blind_ite (Act.blind_pure true) (switchTo_heedless _ s)

theorem present_heedless (s : Session) : Heedless b (present s) := by
  refine Act.blind_get_bind (fun _ => rfl) fun d => ?_
  cases d.active with
  | none => exact Act.blind_pure ()
  | some h => exact Act.blind_ite (Act.blind_pure ()) (showPacket_heedless h s)

theorem select_heedless (s : Session) : Heedless b (select s) := by
  refine (follow_heedless s).bind fun followed => Act.blind_ite ?_ (Act.blind_pure false)
  refine Act.Blind.bind (Act.blind_modify fun _ => rfl) fun _ => ?_
  exact (present_heedless s).bind fun _ => Act.blind_pure true

theorem record_heedless (s : Session) : Heedless b (record s) :=
  (logRaw_heedless _).bind fun _ => latch_heedless _

theorem takePacket_heedless (s : Session) : Heedless b (takePacket s) := by
  have selected : Heedless b (do
      if ← select s then
        report (Rendering.packetLine s.framer.packet s.framer.kind.isTextual Rendering.defaultBound)
        record s
      else modify fun d => { d with pending := some .driverSwitch }) := by
    refine (select_heedless s).bind fun changed => Act.blind_ite ?_ (Act.blind_modify fun _ => rfl)
    exact (report_heedless _).bind fun _ => record_heedless s
  refine Act.blind_get_bind (fun _ => rfl) fun d => Act.blind_ite (Act.blind_pure ()) ?_
  cases timeReport? s with
  | none => exact selected
  | some kind =>
    cases kind with
    | toff => exact takeReport_heedless .toff _
    | pps => exact (takeReport_heedless .pps _).bind fun _ => record_heedless s

theorem takePulse_heedless (clock second : Binary64) : Heedless b (takePulse clock second) := by
  refine (report_heedless _).bind fun _ => Act.blind_get_bind (fun _ => rfl) fun d => ?_
  obtain ⟨tracker, notice⟩ := d.tracker.take .pps ⟨clock, second⟩
  exact Act.Blind.bind (Act.blind_modify fun _ => rfl) fun _ => tell_heedless _

end GnssMonitor.Desk
