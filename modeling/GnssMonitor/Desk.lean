import GnssMonitor.Effect
import GnssMonitor.Handler
import GnssMonitor.Logbook
import GnssMonitor.Packet.Rendering
import GnssMonitor.TimeOffset

/-! The operator's side of a monitoring run: what is shown, by which handler, what is logged
and what has been made of the time reports. -/

namespace GnssMonitor

/-- The room of the display, and what stands on the handler's window if there is one. -/
structure Surface where
  rows : Int := 24
  columns : Int := 80
  /-- Whether handlers get a window at all. -/
  hasWindows : Bool := true
  window : Option Window := none
  deriving DecidableEq, Repr

/-- Why a run ended. -/
inductive Cause
  | selectFailed
  | driverSwitch
  | emptyRead
  | readError
  | signal
  | quit
  | unknown
  deriving DecidableEq, Repr

structure Desk where
  hostname : String
  registry : Registry := Registry.builtIn
  surface : Surface := {}
  log : Logbook := {}
  /-- The receiver that is asked before the live one for what it can do. -/
  fallback : Option Receiver := none
  active : Option Handler := none
  /-- The kind of the packet that the last selection was made for. -/
  lastKind : PacketKind := .bad
  /-- The panels by handler; one that is missing has not been entered yet. -/
  panels : List (String × Panel) := []
  tracker : Tracker := {}
  clock : Binary64 := .zero
  /-- What ends the run once the present batch of packets is through. -/
  pending : Option Cause := none
  signalled : Bool := false
  /-- Whether the operator may still say something. -/
  listening : Bool := true

namespace Desk

abbrev Do := Act Effect Desk

/-- Does something with the log. -/
def onLog {α : Type} (f : Logbook → Except Fault α × Logbook) : Do α := fun d =>
  ⟨(f d.log).1, { d with log := (f d.log).2 }, []⟩

def writeLog (bs : Bytes) : Do Unit := onLog (Logbook.write bs)

def closeLog : Do Unit := onLog Logbook.close

def complain (text : String) : Do Unit := Act.emit (.complain text)

/-- Shows a line and copies it to the log. -/
def report (text : String) : Do Unit := do
  Act.emit (.append text)
  writeLog (Text.encodeAsciiLossy text)

/-- A note for the log only. -/
def announce (text : String) : Do Unit := writeLog (Text.encodeAsciiLossy s!">>>{text}\n")

/-- Reports text in its printable form. -/
def reportPrintable (text : String) : Do Unit :=
  report (String.ofList
    (Rendering.printable (Text.encodeAsciiLossy text) Rendering.defaultBound))

def logRaw (bs : Bytes) : Do Unit := if bs.isEmpty then pure () else writeLog bs

/-- Opens the log. A path with a zero character is a fault, one that leads nowhere is not. -/
def openLog (path : String) (mode : OpenMode) : Do Bool := do
  closeLog
  if path.toList.contains (Char.ofNat 0) then throw .zeroInFileName
  onLog fun l => (l.reopen path mode).map .ok id

def tell : Notice → Do Unit
  | .report text => report text
  | .complain text => complain text

/-- Hands a time report to the tracker. -/
def takeReport (kind : TimeReportKind) (payload : Bytes) : Do Unit := do
  let (tracker, notice, _) ← Act.lift ((← get).tracker.handle kind payload)
  modify fun d => { d with tracker }
  tell notice

/-- Lets the tracker latch its report against a fix. -/
def latch (fixTime : Binary64) : Do Unit := do
  let (tracker, _) ← Act.lift ((← get).tracker.afterPacket fixTime)
  modify fun d => { d with tracker }

def panel (d : Desk) (name : String) : Panel :=
  ((d.panels.find? (·.1 == name)).map (·.2)).getD (Panel.fresh .zero)

def setPanel (name : String) (p : Panel) : Do Unit :=
  modify fun d => { d with panels := (name, p) :: d.panels.filter (·.1 != name) }

/-- Draws on the handler's window; without one nothing happens. -/
def drawAll (ops : List WindowOp) : Do Unit := do
  match (← get).surface.window with
  | none => pure ()
  | some w =>
    Act.emitAll (ops.map .draw)
    modify fun d => { d with surface.window := some (w.applyAll ops) }

end Desk
end GnssMonitor
