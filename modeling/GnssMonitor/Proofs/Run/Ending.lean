import GnssMonitor.Proofs.Monitor.Loop
import GnssMonitor.Proofs.Session.Sending

/-! How a run with an open source ends: the source and the log are closed, if the log can be, and
then the display and the signals are given back. -/

namespace GnssMonitor

namespace Logbook

variable {l : Logbook}

theorem close_of_closable (closable : l.closeRefusal? = none) :
    l.close = (.ok (), { l with current := none }) := by
  simp only [close, closable]

theorem close_of_refusal {reason : String} (refused : l.closeRefusal? = some reason) :
    l.close = (.error (.storage reason), { l with current := some .abandoned }) := by
  simp only [close, refused]

end Logbook

namespace Monitor

/-- What closing the source does to the outside. -/
def closing (m : Monitor) : List Effect :=
  if m.session.endpoint.isSome then [.line .close] else []

def disconnected (m : Monitor) : Monitor := ({ m.session with endpoint := none }, m.desk)

def withLog (log : Logbook) (m : Monitor) : Monitor := (m.session, { m.desk with log })

theorem onSession_close (m : Monitor) :
    onSession Session.close m = ⟨.ok (), m.disconnected, m.closing⟩ := by
  unfold onSession Session.onSession
  rw [Act.within_apply, Session.close_apply]
  refine congrArg (Outcome.mk _ _) ?_
  show List.map Effect.line (if m.session.endpoint.isSome then [.close] else []) = closing m
  unfold closing
  split <;> rfl

variable {m : Monitor}

theorem onDesk_closeLog {answer : Except Fault Unit} {log : Logbook}
    (closed : m.desk.log.close = (answer, log)) :
    onDesk Desk.closeLog m = ⟨answer, m.withLog log, []⟩ := by
  show Outcome.mk m.desk.log.close.1 (m.withLog m.desk.log.close.2) [] = _
  rw [closed]

theorem shutDown_of_closable (closable : m.desk.log.closeRefusal? = none) (cause : Cause) :
    shutDown cause m = ⟨.ok cause.explanation,
      m.disconnected.withLog { m.desk.log with current := none }, m.closing ++ [.stop]⟩ := by
  have logged := onDesk_closeLog (m := m.disconnected) (Logbook.close_of_closable closable)
  unfold shutDown
  rw [Act.bind_ok (by rw [onSession_close]), onSession_close, Act.bind_ok (by rw [logged]), logged]
  rfl

theorem shutDown_of_refusal {reason : String} (refused : m.desk.log.closeRefusal? = some reason)
    (cause : Cause) : shutDown cause m = ⟨.error (.storage reason),
      m.disconnected.withLog { m.desk.log with current := some .abandoned }, m.closing⟩ := by
  have logged := onDesk_closeLog (m := m.disconnected) (Logbook.close_of_refusal refused)
  unfold shutDown
  rw [Act.bind_ok (by rw [onSession_close]), onSession_close, Act.bind_error (by rw [logged]),
    logged, List.append_nil]
  rfl

end Monitor

namespace Run

/-- Gives back the display and the signals, and ends with a code and a last word. -/
def giveBack (code : Nat) (word : Option String) : Do Nat := do
  onDisplay Display.stop
  Act.emit (.signals false)
  match word with
  | some text => Act.emit (.err text)
  | none => pure ()
  return code

theorem giveBack_of_stopped {r r' : Run} {es : List RunEffect}
    (stopped : onDisplay Display.stop r = ⟨.ok (), r', es⟩) (code : Nat) (word : Option String) :
    giveBack code word r = ⟨.ok code, r', es ++ .signals false :: (word.map .err).toList⟩ := by
  unfold giveBack
  rw [Act.bind_ok (by rw [stopped]), stopped]
  cases word <;> rfl

theorem giveBack_of_stuck {r r' : Run} {es : List RunEffect} {e : Fault}
    (stuck : onDisplay Display.stop r = ⟨.error e, r', es⟩) (code : Nat) (word : Option String) :
    giveBack code word r = ⟨.error e, r', es⟩ := by
  unfold giveBack
  rw [Act.bind_error (by rw [stuck]), stuck]

/-- What closing the source does to the outside. -/
def closing (r : Run) : List RunEffect :=
  if r.monitor.session.endpoint.isSome then [.line .close] else []

variable {r : Run}

/-- The run with its source and its log closed. -/
def closed (r : Run) : Run :=
  r.withMonitor (r.monitor.disconnected.withLog { r.monitor.desk.log with current := none })

theorem performAll_closing (m : Monitor) (r : Run) : performAll {} m.closing r =
    ⟨.ok (), r, if m.session.endpoint.isSome then [.line .close] else []⟩ := by
  unfold Monitor.closing
  split <;> rfl

/-- The last word of a run. -/
def lastWord (cause : Cause) : Option String := cause.explanation.map (· ++ "\n")

/-- The run with its log closed. -/
def logClosed (r : Run) : Run :=
  r.withMonitor (r.monitor.withLog { r.monitor.desk.log with current := none })

theorem conclude_of_closable (closable : r.monitor.desk.log.closeRefusal? = none) (cause : Cause) :
    conclude cause r =
      ⟨(giveBack 0 (lastWord cause) r.closed).value, (giveBack 0 (lastWord cause) r.closed).state,
        r.closing ++ (giveBack 0 (lastWord cause) r.closed).effects⟩ := by
  have shown : performAll {} (r.monitor.closing ++ [.stop]) r.closed =
      ⟨(onDisplay Display.stop r.closed).value, (onDisplay Display.stop r.closed).state,
        r.closing ++ (onDisplay Display.stop r.closed).effects⟩ := by
    rw [performAll_append, Act.bind_ok (by rw [performAll_closing]), performAll_closing,
      performAll_singleton]
    rfl
  have shut := onMonitor_apply (Monitor.shutDown_of_closable closable cause) shown
  generalize given : giveBack 0 (lastWord cause) r.closed = rest
  unfold giveBack lastWord at given
  unfold conclude
  match stopped : onDisplay Display.stop r.closed with
  | ⟨.error e, r', es⟩ =>
    rw [Act.bind_error (by rw [stopped]), stopped] at given
    rw [stopped] at shut
    rw [Act.bind_error (by rw [shut]; rfl), shut]
    cases given
    rfl
  | ⟨.ok u, r', es⟩ =>
    rw [Act.bind_ok (by rw [stopped]), stopped] at given
    rw [stopped] at shut
    rw [Act.bind_ok (by rw [shut]; rfl), shut]
    cases given
    cases cause.explanation <;> simp [List.append_assoc, toString]

theorem conclude_of_refusal {reason : String}
    (refused : r.monitor.desk.log.closeRefusal? = some reason) (cause : Cause) :
    conclude cause r = ⟨.error (.storage reason),
      r.withMonitor (r.monitor.disconnected.withLog
        { r.monitor.desk.log with current := some .abandoned }), r.closing⟩ := by
  have shut : onMonitor {} (Monitor.shutDown cause) r = _ :=
    onMonitor_apply (Monitor.shutDown_of_refusal refused cause) (performAll_closing r.monitor _)
  unfold conclude
  rw [Act.bind_error (by rw [shut]; rfl), shut]
  rfl

theorem closeLog_apply {answer : Except Fault Unit} {log : Logbook}
    (closed : r.monitor.desk.log.close = (answer, log)) :
    closeLog r = ⟨answer, r.withMonitor (r.monitor.withLog log), []⟩ :=
  onMonitor_apply (Monitor.onDesk_closeLog closed) rfl

theorem abandon_of_closable (closable : r.monitor.desk.log.closeRefusal? = none) :
    abandon r = giveBack 1 (some violationMessage) r.logClosed := by
  have logged := closeLog_apply (Logbook.close_of_closable closable)
  have parts : abandon = closeLog >>= fun _ => giveBack 1 (some violationMessage) := rfl
  rw [parts, Act.bind_ok (by rw [logged]), logged]
  rfl

theorem abandon_of_refusal {reason : String}
    (refused : r.monitor.desk.log.closeRefusal? = some reason) : abandon r =
      ⟨.error (.storage reason), r.withMonitor (r.monitor.withLog
        { r.monitor.desk.log with current := some .abandoned }), []⟩ := by
  have logged := closeLog_apply (Logbook.close_of_refusal refused)
  unfold abandon
  rw [Act.bind_error (by rw [logged]), logged]

theorem closing_cases (r : Run) : r.closing = [] ∨ r.closing = [.line .close] := by
  unfold closing
  split <;> simp

theorem finish_of_fault {e : Fault} (other : e ≠ .invariant) :
    finish (.error e) = conclude .unknown := by
  cases e <;> first | rfl | contradiction

/-- The log is closed, and the source as well unless the run can no longer be trusted. -/
structure Closed (code : Nat) (word : Option String) (r : Run) : Prop where
  log : r.monitor.desk.log.isOpen = false
  source : r.monitor.session.endpoint = none ∨ code = 1 ∧ word = some violationMessage

/-- How a run ends whose log can be closed: all is given back in the end. -/
theorem finish_of_closable (closable : r.monitor.desk.log.closeRefusal? = none)
    (ended : Except Fault Cause) : ∃ code word es r', Closed code word r' ∧
      r'.display = r.display ∧ (es = [] ∨ es = [.line .close]) ∧
      finish ended r = ⟨(giveBack code word r').value, (giveBack code word r').state,
        es ++ (giveBack code word r').effects⟩ := by
  have closing := closing_cases r
  cases ended with
  | ok cause =>
    exact ⟨0, _, r.closing, r.closed, ⟨rfl, .inl rfl⟩, rfl, closing,
      conclude_of_closable closable cause⟩
  | error e =>
    by_cases violated : e = .invariant
    · subst violated
      exact ⟨1, some violationMessage, [], r.logClosed, ⟨rfl, .inr ⟨rfl, rfl⟩⟩, rfl, .inl rfl,
        abandon_of_closable closable⟩
    · rw [finish_of_fault violated]
      exact ⟨0, _, r.closing, r.closed, ⟨rfl, .inl rfl⟩, rfl, closing,
        conclude_of_closable closable .unknown⟩

/-- A log that cannot be closed stops the end of a run before anything is given back. -/
theorem finish_of_refusal {reason : String}
    (refused : r.monitor.desk.log.closeRefusal? = some reason) (ended : Except Fault Cause) :
    ∃ r' es, finish ended r = ⟨.error (.storage reason), r', es⟩ ∧
      r'.monitor.desk.log.isOpen = true ∧ (es = [] ∨ es = [.line .close]) := by
  have closing := closing_cases r
  cases ended with
  | ok cause => exact ⟨_, _, conclude_of_refusal refused cause, rfl, closing⟩
  | error e =>
    by_cases violated : e = .invariant
    · subst violated
      exact ⟨_, _, abandon_of_refusal refused, rfl, .inl rfl⟩
    · rw [finish_of_fault violated]
      exact ⟨_, _, conclude_of_refusal refused .unknown, rfl, closing⟩

end Run
end GnssMonitor
