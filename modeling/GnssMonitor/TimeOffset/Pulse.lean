import GnssMonitor.TimeOffset

/-! Watching the carrier-detect line for the pulse that starts each second. The pulse marks the
second after the latest latched fix. -/

namespace GnssMonitor

/-- A change of the line, with what happened until then: the clock, the carrier or a failure of
the wait, a new latched fix, an order to stop, a port gone. -/
structure Edge where
  clock : Binary64
  carrier : Bool := true
  fails : Bool := false
  fix : Option Binary64 := none
  stops : Bool := false
  dropsPort : Bool := false

structure PulseWatch where
  fixReference : Binary64
  hasPort : Bool := true
  running : Bool := true

/-- What a watch saw: the pulses as clock and second, and the edges it did not wait for. -/
structure PulseLog where
  pulses : List TimeSample
  watch : PulseWatch
  left : List Edge

namespace PulseWatch

/-- The second that a pulse marks, if there was a fix before it. -/
def secondAfter (reference : Binary64) : Except Fault (Option Binary64) :=
  if reference.le .zero then .ok none
  else do
    let second ← asFault .notFinite reference.trunc
    return some (Binary64.ofInt (second + 1))

def afterEdge (w : PulseWatch) (e : Edge) : PulseWatch where
  fixReference := e.fix.getD w.fixReference
  hasPort := w.hasPort && !e.dropsPort
  running := w.running && !e.stops

/-- Waits for one edge after another while running with a port. The wait fails when no edge is
left, and a failing wait ends the watch. -/
def run (w : PulseWatch) : List Edge → Except Fault PulseLog
  | [] => .ok ⟨[], w, []⟩
  | e :: rest =>
    if !w.running || !w.hasPort then .ok ⟨[], w, e :: rest⟩
    else do
      let w := w.afterEdge e
      if e.fails then return ⟨[], w, rest⟩
      if !e.carrier then run w rest
      else
        let pulse ← secondAfter w.fixReference
        let log ← run w rest
        return { log with pulses := (pulse.map (TimeSample.mk e.clock)).toList ++ log.pulses }

end PulseWatch
end GnssMonitor
