import GnssMonitor.Desk
import GnssMonitor.Session

/-! Keeping the active handler in step with the packets. A handler is entered when the kind of
packet changes, not on every packet. -/

namespace GnssMonitor.Desk

/-- Runs the hook that starts a handler; its answer is whether that worked. -/
def enter (h : Handler) : Do Bool := do
  match h.enters with
  | none => return true
  | some answer =>
    Act.emit (.hook h.name .enter)
    match h.presentation with
    | .panel _ => setPanel h.name (Panel.fresh (← get).clock)
    | .hooks _ => pure ()
    return answer

def leave (h : Handler) : Do Unit := do
  if h.hasLeave then
    Act.emit (.hook h.name .leave)
    match h.presentation with
    | .panel _ => drawAll [.clear]
    | .hooks _ => pure ()

/-- Shows the latest packet of the session. A packet without a tag changes nothing. -/
def showPacket (h : Handler) (s : Session) : Do Unit := do
  if h.hasUpdate then
    Act.emit (.hook h.name (.update s.framer.packet))
    match h.presentation with
    | .panel _ =>
      let d ← get
      match (d.panel h.name).update s.framer.last s.fields s.sentence d.clock with
      | none => pure ()
      | some p =>
        setPanel h.name p
        drawAll p.draw
    | .hooks _ => pure ()

def statusText (d : Desk) (s : Session) : String :=
  let name := match d.active with
    | some h => h.name
    | none => "Unknown device"
  s!"gpsmon: {s.describe d.hostname}  {name}"

/-- Lays the display out anew, with a window of so many rows for the handler. -/
def layOut (rows : Int) : Do Unit := do
  Act.emit (.layout rows)
  modify fun d =>
    { d with surface.window := if d.surface.hasWindows && 0 < rows then some [] else none }

/-- Whether the display has room for a handler and a line beside it. -/
def hasRoom (d : Desk) (h : Handler) : Bool :=
  h.rows + 1 ≤ d.surface.rows && h.columns ≤ d.surface.columns

/-- Gives a handler the display and starts it. -/
def occupy (h : Handler) (s : Session) : Do Unit := do
  modify fun d => { d with active := some h }
  Act.emit .clear
  layOut h.rows
  if !(← enter h) then complain "Internal initialization failed."
  Act.emit (.status ((← get).statusText s))

/-- Makes a handler the active one. -/
def install (h : Handler) (s : Session) : Do Unit := do
  match (← get).active with
  | some old => leave old
  | none => pure ()
  occupy h s

/-- Changes to the handler of a receiver; false only when there is none. A display that is too
small keeps the present handler. -/
def switchTo (r : Receiver) (s : Session) : Do Bool := do
  let d ← get
  match d.registry.resolve r.name with
  | none =>
    complain s!"No monitor matches {r.name}."
    return false
  | some h =>
    if d.hasRoom h then install h s
    else complain s!"{h.name} requires {h.columns}x{h.rows + 1} screen"
    return true

/-- The receiver whose handler shall show the packet: the one that talks, but a sticky receiver
that is on display stays there when it falls back to sentences. -/
def target (d : Desk) (s : Session) : Receiver :=
  let live := s.device.getD .nmea0183
  match d.active with
  | some h => if s.framer.kind = .nmea && h.receiver.sticky then h.receiver else live
  | none => live

/-- Changes handlers when the kind of packet has changed; false when that failed. -/
def follow (s : Session) : Do Bool := do
  let d ← get
  if s.framer.kind = d.lastKind then return true else switchTo (d.target s) s

/-- Hands the packet to the active handler, if there is any of it. -/
def present (s : Session) : Do Unit := do
  match (← get).active with
  | some h => if s.framer.packet.isEmpty then pure () else showPacket h s
  | none => pure ()

/-- Selects the handler for the latest packet and shows the packet; false when a change that
was needed failed. -/
def select (s : Session) : Do Bool := do
  if ← follow s then
    modify fun d => { d with lastKind := s.framer.kind }
    present s
    return true
  else return false

end GnssMonitor.Desk
