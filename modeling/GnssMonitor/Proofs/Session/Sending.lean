import GnssMonitor.Proofs.Act
import GnssMonitor.Receiver.Reconfiguration

/-! What a session does to its endpoint. Sending leaves the session as it is, and only an absent
endpoint is a fault of its own; new settings of the line stay with the line. -/

namespace GnssMonitor.Session

open Act (Obeys)

/-- What goes to the endpoint when something is sent. -/
def isOutput : LineEffect → Bool
  | .observed _ | .write _ | .flush => true
  | .baud _ | .close => false

def OnlySends (s : Session) (es : List LineEffect) (s' : Session) : Prop :=
  s' = s ∧ ∀ e ∈ es, isOutput e = true

instance : Act.Composes OnlySends where
  nothing _ := ⟨rfl, by simp⟩
  next := by
    rintro s _ _ es es' ⟨rfl, out⟩ ⟨rfl, out'⟩
    exact ⟨rfl, fun e he => (List.mem_append.mp he).elim (out e) (out' e)⟩

variable {α : Type} {s : Session}

theorem write_sends (bs : Bytes) (s : Session) : Obeys OnlySends s (write bs) := by
  unfold Obeys OnlySends write
  simp only [Act.get_bind]
  cases s.observed <;> cases s.endpoint with
  | none => simp [isOutput]
  | some e =>
    obtain ⟨medium, _, _, delivery, _, _, _⟩ := e
    cases medium <;> cases delivery <;> simp [isOutput]

theorem write_answers (bs : Bytes) (present : s.endpoint.isSome) :
    ∃ n, (write bs s).value = .ok n := by
  unfold write
  simp only [Act.get_bind]
  cases s.observed <;> cases h : s.endpoint with
  | none => simp [h] at present
  | some e =>
    obtain ⟨medium, _, _, delivery, _, _, _⟩ := e
    cases medium <;> cases delivery <;> simp

theorem writeAll_sends (frames : List Bytes) (s : Session) :
    Obeys OnlySends s (writeAll frames) := by
  induction frames with
  | nil => exact Act.obeys_pure ()
  | cons bs rest ih => exact (write_sends bs s).bind_same (write_sends bs s).1 fun _ _ => ih

theorem writeAll_answers (frames : List Bytes) (present : s.endpoint.isSome) :
    (writeAll frames s).value = .ok () := by
  induction frames with
  | nil => rfl
  | cons bs rest ih =>
    obtain ⟨n, written⟩ := write_answers bs present
    rw [writeAll, Act.bind_ok written, (write_sends bs s).1]
    exact ih

theorem send_sends (message : Except Fault (Option Bytes)) (s : Session) :
    Obeys OnlySends s (send message) := by
  cases message with
  | error e => exact Act.obeys_throw e
  | ok message =>
    cases message with
    | none => exact Act.obeys_pure false
    | some bs => exact (write_sends bs s).bind fun n _ => Act.obeys_pure (decide (0 < n))

theorem switchMode_sends (r : Option Receiver) (mode : Int) (s : Session) :
    Obeys OnlySends s (switchMode r mode) := by
  unfold switchMode
  cases r.bind (·.modeSwitch) with
  | none => exact Act.obeys_throw _
  | some m => exact send_sends _ s

theorem switchSpeed_sends (r : Option Receiver) (line : LineSettings) (s : Session) :
    Obeys OnlySends s (switchSpeed r line) := by
  unfold switchSpeed
  cases r.bind (·.speedSwitch) with
  | none => exact Act.obeys_throw _
  | some m => exact send_sends _ s

theorem switchRate_sends (r : Option Receiver) (rate : Binary64) (s : Session) :
    Obeys OnlySends s (switchRate r rate) := by
  unfold switchRate
  cases r.bind (·.rateSwitch) with
  | none => exact Act.obeys_throw _
  | some m => exact send_sends _ s

theorem sendControl_sends (r : Option Receiver) (payload : Bytes) (s : Session) :
    Obeys OnlySends s (sendControl r payload) := by
  unfold sendControl
  cases r.bind (·.control) with
  | none => exact Act.obeys_throw _
  | some c =>
    dsimp only
    cases c.message payload with
    | error e => exact Act.obeys_throw e
    | ok bs => exact write_sends bs s

/-- The policy is as it was once what was to be sent has gone out. -/
theorem writable_sends {x : Do α} (h : ∀ s, Obeys OnlySends s x) (s : Session) :
    Obeys OnlySends s (writable x) := by
  obtain ⟨same, out⟩ := h { s with readonly := false }
  unfold Obeys writable
  exact ⟨by simp only [same], out⟩

theorem monitorControl_sends (payload : Bytes) (s : Session) :
    Obeys OnlySends s (monitorControl payload) := by
  unfold monitorControl
  refine .get_bind ?_
  split
  · exact Act.obeys_pure false
  · refine (writable_sends (sendControl_sends s.device payload) s).bind fun n _ => ?_
    exact Act.obeys_pure (n != -1)

/-- What waiting for pending output comes to. -/
theorem drain_apply (s : Session) : drain s = match s.undrained? with
    | some e => ⟨.error e, s, []⟩
    | none => ⟨.ok (), s, if s.port?.isSome then [.flush] else []⟩ := by
  unfold drain
  rw [Act.get_bind]
  cases s.undrained? with
  | some e => rfl
  | none => cases s.port?.isSome <;> rfl

theorem drain_sends (s : Session) : Obeys OnlySends s drain := by
  unfold Obeys OnlySends
  rw [drain_apply]
  cases s.undrained? with
  | some e => simp
  | none => split <;> simp [isOutput]

/-- Only a port keeps output, and it has a reason of its own. -/
theorem undrained?_eq_some {s : Session} {e : Fault} (stuck : s.undrained? = some e) :
    ∃ reason, e = .undrained reason := by
  obtain ⟨port, _, stuck⟩ := Option.bind_eq_some_iff.mp stuck
  cases drainage : port.drainage with
  | full =>
    rw [drainage] at stuck
    contradiction
  | failing reason =>
    rw [drainage] at stuck
    exact ⟨reason, (Option.some.inj stuck).symm⟩

/-- A relay gets its watch request or nothing. -/
theorem sendWatch_cases (sentencesOnly : Bool) (device : Option String) (s : Session) :
    (sendWatch sentencesOnly device s).state = s ∧
      ((sendWatch sentencesOnly device s).effects = [] ∨
        ∃ bs, Text.encodeAscii (watchRequest sentencesOnly device) = .ok bs ∧
          (sendWatch sentencesOnly device s).effects = [.write bs]) := by
  unfold sendWatch
  simp only [Act.get_bind]
  cases s.endpoint.filter (·.medium = .socket) with
  | none => exact ⟨rfl, .inl rfl⟩
  | some e =>
    cases encoded : Text.encodeAscii (watchRequest sentencesOnly device) with
    | error e => exact ⟨rfl, .inl rfl⟩
    | ok bs =>
      have plain : asFault Fault.notAscii (.ok bs) = .ok bs := rfl
      simp only [plain, Act.lift_ok_bind]
      split
      · exact ⟨rfl, .inl rfl⟩
      · exact ⟨rfl, .inr ⟨bs, rfl, rfl⟩⟩

theorem sendWatch_ok_iff {s : Session} {e : Endpoint}
    (socket : s.endpoint.filter (·.medium = .socket) = some e) (sentencesOnly : Bool)
    (device : Option String) : (sendWatch sentencesOnly device s).value = .ok () ↔
      e.delivery ≠ .failing ∧
        ∃ bs, Text.encodeAscii (watchRequest sentencesOnly device) = .ok bs := by
  unfold sendWatch
  rw [Act.get_bind, socket]
  dsimp only
  cases encoded : Text.encodeAscii (watchRequest sentencesOnly device) with
  | error position =>
    have stopped : asFault Fault.notAscii (.error position : Except Text.NotAscii Bytes) =
        .error (.notAscii position) := rfl
    rw [stopped, Act.lift_error_bind]
    simp
  | ok bs =>
    have plain : asFault Fault.notAscii (.ok bs) = .ok bs := rfl
    rw [plain, Act.lift_ok_bind]
    by_cases failing : e.delivery = .failing
    · simp [failing]
    · simp [failing]

theorem close_apply (s : Session) : close s =
    ⟨.ok (), { s with endpoint := none }, if s.endpoint.isSome then [.close] else []⟩ := by
  obtain ⟨source, endpoint⟩ := s
  cases endpoint <;> rfl

/-- At most the endpoint and its settings change. -/
def OnlyRelines (s : Session) (_ : List LineEffect) (s' : Session) : Prop :=
  ∃ endpoint line, s' = { s with endpoint, line }

instance : Act.Composes OnlyRelines where
  nothing s := ⟨s.endpoint, s.line, rfl⟩
  next := by
    rintro s _ _ _ _ ⟨_, _, rfl⟩ ⟨_, _, rfl⟩
    exact ⟨_, _, rfl⟩

theorem setPort_relines (e : Endpoint) (s : Session) : Obeys OnlyRelines s (setPort e) :=
  ⟨_, _, rfl⟩

theorem setLine_relines (line : LineSettings) (s : Session) :
    Obeys OnlyRelines s (setLine line) := by
  have spoken : ∀ s, Obeys OnlyRelines s (Act.emit (.baud line.baud)) := fun s => ⟨_, _, rfl⟩
  refine .get_bind ?_
  cases s.port? with
  | none => exact Act.obeys_pure ()
  | some e =>
    refine Act.obeys_unless ((spoken s).bind fun _ _ => (setPort_relines _ _).bind fun _ _ => ?_)
    refine Act.obeys_unless ((setPort_relines _ _).bind fun _ _ => ?_)
    refine Act.obeys_unless ((setPort_relines _ _).bind fun _ _ => ?_)
    exact Act.obeys_unless ((setPort_relines _ _).bind fun _ _ => ⟨_, _, rfl⟩)

/-- New settings of the line show in its speed alone. -/
theorem setLine_bauds (line : LineSettings) (s : Session) :
    Obeys (Act.Only (· = LineEffect.baud line.baud)) s (setLine line) := by
  have spoken : ∀ s : Session, Obeys (Act.Only (· = LineEffect.baud line.baud)) s
      (Act.emit (.baud line.baud)) := fun s => by simp [Obeys, Act.Only]
  have set : ∀ e (s : Session), Obeys (Act.Only (· = LineEffect.baud line.baud)) s (setPort e) :=
    fun e s => by simp [Obeys, Act.Only, setPort]
  refine .get_bind ?_
  cases s.port? with
  | none => exact Act.obeys_pure ()
  | some e =>
    refine Act.obeys_unless ((spoken s).bind fun _ _ => (set _ _).bind fun _ _ => ?_)
    refine Act.obeys_unless ((set _ _).bind fun _ _ => ?_)
    refine Act.obeys_unless ((set _ _).bind fun _ _ => ?_)
    exact Act.obeys_unless ((set _ _).bind fun _ _ => by simp [Obeys, Act.Only])

end GnssMonitor.Session
