import GnssMonitor.Session.Line
import GnssMonitor.Window

/-! Everything that monitoring does to the outside: to the line, to the display and to the
clock, and the calls of handler hooks. -/

namespace GnssMonitor

inductive HookCall
  | enter
  | update (packet : Bytes)
  | leave
  | command (line : String)
  deriving DecidableEq, Repr

/-- Why nothing happens for a while. -/
inductive Pause
  /-- A reconfigured receiver settles. -/
  | settle
  /-- A receiver starts anew. -/
  | reboot
  deriving DecidableEq, Repr

def Pause.seconds : Pause → Binary64
  | settle => Binary64.ofDecimal false 5 (-2)
  | reboot => Binary64.ofInt 6

inductive Effect
  | line (e : LineEffect)
  | append (text : String)
  | complain (text : String)
  | clear
  | layout (rows : Int)
  | status (text : String)
  /-- Something drawn on the handler's window. -/
  | draw (op : WindowOp)
  /-- The operator is asked for a command. -/
  | ask (prompt : String)
  /-- Input goes on after a command. -/
  | resume
  | stop
  | hook (handler : String) (call : HookCall)
  | pause (p : Pause)
  deriving DecidableEq, Repr

end GnssMonitor
