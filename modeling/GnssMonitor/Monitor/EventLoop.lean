import GnssMonitor.Command.Execution

/-! The loop of a monitoring run: it waits for the device and the operator, takes in what they
have to say and goes on until something ends the run. -/

namespace GnssMonitor

namespace Cause

def name : Cause → String
  | selectFailed => "SELECT_FAILED"
  | driverSwitch => "DRIVER_SWITCH"
  | emptyRead => "EMPTY_READ"
  | readError => "READ_ERROR"
  | signal => "SIGNAL"
  | quit => "QUIT"
  | unknown => "UNKNOWN"

/-- What the operator is told at the end; a run ended on purpose needs no word. -/
def explanation : Cause → Option String
  | selectFailed => some "I/O wait on device failed"
  | driverSwitch => some "Driver type switch failed"
  | emptyRead => some "Device went offline"
  | readError => some "Read error from device"
  | signal | quit => none
  | unknown => some "Unknown error, should never happen."

/-- What an intake ends the run with. -/
def ofIntake? : IntakeStatus → Option Cause
  | .ready => none
  | .unready => some emptyRead
  | .error => some readError
  | .eof => some quit

end Cause

/-- What the operator said when asked. -/
inductive Reply
  | line (text : String)
  /-- A key that is no command. -/
  | nothing
  | closed
  deriving DecidableEq, Repr

/-- What a wait returned with. Nothing at all is the heartbeat. -/
structure Wake where
  deviceReady : Bool := false
  deviceErred : Bool := false
  /-- A signal to end arrived in the meantime. -/
  signalled : Bool := false
  /-- What the operator is going to say, if there is input. -/
  reply : Option Reply := none
  deriving DecidableEq, Repr

inductive Wait
  | woke (w : Wake)
  | failed
  /-- The wait did not come back. -/
  | broken (e : Fault)
  deriving DecidableEq, Repr

def pulseBar : String :=
  "------------------------------------- PPS -------------------------------------\n"

namespace Desk

def toffLeader : Bytes := Bytes.ofString "\x7b\"class\":\"TOFF\","

def ppsLeader : Bytes := Bytes.ofString "\x7b\"class\":\"PPS\","

/-- The report of time that a relay passes on, if the packet is one. -/
def timeReport? (s : Session) : Option TimeReportKind :=
  if s.source.isSerial || s.framer.kind != .json then none
  else if toffLeader.isPrefixOf s.framer.packet then some .toff
  else if ppsLeader.isPrefixOf s.framer.packet then some .pps
  else none

/-- The packet itself goes into the log and the tracker sees the latest fix. -/
def record (s : Session) : Do Unit := do
  logRaw s.framer.packet
  latch s.fixTime

/-- What is done with each packet of a session. After a failed change of handlers nothing more
is, until the loop has ended. -/
def takePacket (s : Session) : Do Unit := do
  if (← get).pending.isSome then return
  match timeReport? s with
  | some .toff => takeReport .toff s.framer.packet
  | some .pps =>
    takeReport .pps s.framer.packet
    record s
  | none =>
    if ← select s then
      report (Rendering.packetLine s.framer.packet s.framer.kind.isTextual Rendering.defaultBound)
      record s
    else modify fun d => { d with pending := some .driverSwitch }

/-- A pulse on the line, given the time of the local clock and the second it marks. -/
def takePulse (clock second : Binary64) : Do Unit := do
  reportPrintable pulseBar
  let (tracker, notice) := (← get).tracker.take .pps ⟨clock, second⟩
  modify fun d => { d with tracker }
  tell notice

end Desk

namespace Monitor

/-- Asks the operator for a command and runs it. Once input has ended it is not looked at
again. -/
def keystroke (reply : Reply) : Do (Option Cause) := do
  Act.emit (.ask (← get).prompt)
  match reply with
  | .closed =>
    modifyDesk fun d => { d with listening := false }
    return none
  | .nothing => return none
  | .line text =>
    match ← execute text with
    | .quit => return some .quit
    | .proceed =>
      Act.emit .resume
      return none

def intake : Do IntakeStatus := Session.intake .line Desk.takePacket

/-- Reads the device once and says what that ends the run with. -/
def serveDevice : Do (Option Cause) := do
  let status ← intake
  return (← get).desk.pending.orElse fun _ => Cause.ofIntake? status

/-- What the operator has to say is passed over once input has ended. -/
def serveOperator : Option Reply → Do (Option Cause)
  | none => return none
  | some reply => do
    if (← get).desk.listening then keystroke reply else return none

/-- Serves what a wait returned with, the device before the operator, unless a signal has come. -/
def attend (w : Wake) : Do (Option Cause) := do
  if (← get).desk.signalled then return some .signal
  if w.deviceErred then return some .selectFailed
  if w.deviceReady then
    match ← serveDevice with
    | some cause => return some cause
    | none => serveOperator w.reply
  else serveOperator w.reply

/-- Takes note of a signal first of all. -/
def serve (w : Wake) : Do (Option Cause) := do
  if w.signalled then modifyDesk fun d => { d with signalled := true }
  attend w

/-- Once around the loop, given what the wait brings. A signal that came before is enough. -/
def step (wait : Wait) : Do (Option Cause) := do
  let m ← get
  if m.desk.signalled then return some .signal
  if m.session.endpoint.isNone then throw (.absent "fileno")
  match wait with
  | .failed => return some .selectFailed
  | .broken e => throw e
  | .woke w => serve w

/-- How many things a wait watches, wakeups aside. -/
def watched (m : Monitor) : Except Fault Nat :=
  if m.session.endpoint.isNone then .error (.absent "fileno")
  else .ok (if m.desk.listening then 2 else 1)

/-- Lets go of everything. What there is to say at the end is the answer. -/
def shutDown (cause : Cause) : Do (Option String) := do
  onSession Session.close
  onDesk Desk.closeLog
  Act.emit .stop
  return cause.explanation

end Monitor
end GnssMonitor
