import GnssMonitor.Command.Execution
import GnssMonitor.Proofs.Session.Sending

/-! A session that can be operated: it has an endpoint, and line settings that a port knows. Nothing
that the operator has it do changes that, and what goes wrong is put to the operator. -/

namespace GnssMonitor

open Act (Survives)
open Monitor (isSurvivable)

/-- The settings are such as a port knows. -/
structure LineSettings.Known (l : LineSettings) : Prop where
  wordLength : l.wordLength ∈ [7, 8]
  parity : l.parity ∈ ["N", "O", "E"]
  stopBits : l.stopBits ∈ [1, 2]

theorem asFault_error {ε α : Type} {f : ε → Fault} (mild : ∀ e, isSurvivable (f e) = true)
    {x : Except ε α} {e : Fault} (h : asFault f x = .error e) : isSurvivable e = true := by
  cases x with
  | ok a => contradiction
  | error e' =>
    obtain rfl := Except.error.inj h
    exact mild e'

theorem ModeSwitch.message_error {m : ModeSwitch} {baud mode : Int} {e : Fault}
    (h : m.message baud mode = .error e) : isSurvivable e = true := by
  cases m
  unfold ModeSwitch.message at h
  dsimp only at h
  split at h
  · split at h
    · contradiction
    · exact asFault_error (fun _ => rfl) h
  · contradiction

theorem SpeedSwitch.message_error {m : SpeedSwitch} {speaking : PacketKind} {line : LineSettings}
    {e : Fault} (h : m.message speaking line = .error e) : isSurvivable e = true := by
  cases m with
  | ashtech => contradiction
  | mediatek => contradiction
  | sirf =>
    unfold SpeedSwitch.message at h
    dsimp only at h
    split at h
    · contradiction
    · split at h
      · contradiction
      · exact asFault_error (fun _ => rfl) h

theorem RateSwitch.message_error {m : RateSwitch} {rate : Binary64} {e : Fault}
    (h : m.message rate = .error e) : isSurvivable e = true := by
  cases m
  unfold RateSwitch.message at h
  cases rounded : asFault Fault.notFinite (rate * Binary64.ofInt 1000).round with
  | error e' =>
    rw [rounded] at h
    obtain rfl := Except.error.inj h
    exact asFault_error (fun _ => rfl) rounded
  | ok interval =>
    rw [rounded] at h
    have sent : (if 100 ≤ interval ∧ interval ≤ 10000 then
        (.ok (some (Encoding.nmeaText s!"$PMTK220,{interval}")) : Except Fault (Option Bytes))
      else .ok none) = .error e := h
    split at sent <;> contradiction

theorem ControlFraming.message_error {c : ControlFraming} {payload : Bytes} {e : Fault}
    (h : c.message payload = .error e) : isSurvivable e = true := by
  cases c with
  | nmea => contradiction
  | sirf => exact asFault_error (fun _ => rfl) h

namespace Session

/-- The session has an endpoint and knows its line. -/
structure Operable (s : Session) : Prop where
  connected : s.endpoint.isSome
  line : s.line.Known

/-- The session stays operable, and what stops the action is put to the operator. -/
abbrev Copes {α : Type} (x : Do α) : Prop := Survives Operable (isSurvivable · = true) x

theorem write_copes (bs : Bytes) : Copes (write bs) := by
  intro s operable
  rw [(write_sends bs s).1]
  refine ⟨operable, ?_⟩
  intro e stopped
  obtain ⟨n, written⟩ := write_answers bs operable.connected
  rw [written] at stopped
  contradiction

theorem send_copes {message : Except Fault (Option Bytes)}
    (mild : ∀ e, message = .error e → isSurvivable e = true) : Copes (send message) := by
  apply (Act.survives_lift mild).bind
  intro bs
  cases bs with
  | none => exact Act.survives_pure false
  | some bs => exact (write_copes bs).bind fun n => Act.survives_pure _

theorem incapable_copes {α : Type} (r : Option Receiver) (c : Capability) :
    Copes (incapable r c : Do α) := Act.survives_throw rfl

theorem switchMode_copes (r : Option Receiver) (mode : Int) : Copes (switchMode r mode) := by
  unfold switchMode
  cases r.bind (·.modeSwitch) with
  | none => exact incapable_copes r .mode
  | some m =>
    apply Act.survives_get_bind
    intro s _
    exact send_copes fun _ => ModeSwitch.message_error

theorem switchSpeed_copes (r : Option Receiver) (line : LineSettings) :
    Copes (switchSpeed r line) := by
  unfold switchSpeed
  cases r.bind (·.speedSwitch) with
  | none => exact incapable_copes r .speed
  | some m =>
    apply Act.survives_get_bind
    intro s _
    exact send_copes fun _ => SpeedSwitch.message_error

theorem switchRate_copes (r : Option Receiver) (rate : Binary64) :
    Copes (switchRate r rate) := by
  unfold switchRate
  cases r.bind (·.rateSwitch) with
  | none => exact incapable_copes r .rate
  | some m => exact send_copes fun _ => RateSwitch.message_error

theorem sendControl_copes (r : Option Receiver) (payload : Bytes) :
    Copes (sendControl r payload) := by
  unfold sendControl
  cases r.bind (·.control) with
  | none => exact incapable_copes r .control
  | some c =>
    apply (Act.survives_lift fun _ => ControlFraming.message_error).bind
    exact write_copes

theorem writable_copes {α : Type} {x : Do α} (copes : Copes x) : Copes (writable x) := by
  intro s operable
  have lifted : Operable { s with readonly := false } := ⟨operable.connected, operable.line⟩
  obtain ⟨operable', mild⟩ := copes _ lifted
  exact ⟨⟨operable'.connected, operable'.line⟩, mild⟩

theorem monitorControl_copes (payload : Bytes) : Copes (monitorControl payload) := by
  apply Act.survives_get_bind
  intro s _
  apply Act.survives_ite
  · intro _
    exact Act.survives_pure false
  · intro _
    exact (writable_copes (sendControl_copes s.device payload)).bind fun n => Act.survives_pure _

theorem drain_copes : Copes drain := by
  apply Act.survives_get_bind
  intro s _
  cases stuck : s.undrained? with
  | none => exact Act.survives_ite (fun _ => Act.survives_emit _) fun _ => Act.survives_pure ()
  | some e =>
    obtain ⟨reason, rfl⟩ := undrained?_eq_some stuck
    exact Act.survives_throw rfl

theorem setPort_copes (e : Endpoint) : Copes (setPort e) :=
  Act.survives_modify fun _ operable => ⟨rfl, operable.line⟩

/-- With settings that it knows, a port refuses at most the speed. -/
theorem setLine_copes {line : LineSettings} (known : line.Known) : Copes (setLine line) := by
  apply Act.survives_get_bind
  intro s _
  cases s.port? with
  | none => exact Act.survives_pure ()
  | some e =>
    have refused : isSurvivable (.refusedSpeed line.baud) = true := rfl
    refine Act.survives_unless (fun _ => refused) ?_
    refine (Act.survives_emit _).bind fun _ => (setPort_copes _).bind fun _ => ?_
    refine Act.survives_unless (fun unknown => absurd known.wordLength unknown) ?_
    refine (setPort_copes _).bind fun _ => ?_
    refine Act.survives_unless (fun unknown => absurd known.parity unknown) ?_
    refine (setPort_copes _).bind fun _ => ?_
    refine Act.survives_unless (fun unknown => absurd known.stopBits unknown) ?_
    refine (setPort_copes _).bind fun _ => ?_
    exact Act.survives_modify fun _ operable => ⟨operable.connected, known⟩

theorem switchReceiver_copes (name : String) : Copes (switchReceiver name) := by
  unfold switchReceiver
  cases Receiver.find? name with
  | none => exact Act.survives_pure false
  | some r =>
    have forced : Copes (modify fun s => { s with device := some r }) :=
      Act.survives_modify fun _ operable => ⟨operable.connected, operable.line⟩
    exact forced.bind fun _ => Act.survives_pure true

end Session
end GnssMonitor
