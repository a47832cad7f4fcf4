import GnssMonitor.Session

/-! Opening the endpoint of a session: a port with the line settings, or a connection to the
host and port of a relay. -/

namespace GnssMonitor

inductive Opening
  | serial (path : String) (line : LineSettings)
  | connect (host : String) (port : Int)
  deriving DecidableEq, Repr

/-- Why a source could not be opened. -/
structure OpenFault where
  source : Source
  reason : String
  deriving DecidableEq, Repr

def OpenFault.message (e : OpenFault) : String :=
  match e.source with
  | .serial path => s!"Failed to open {path}: {e.reason}"
  | .relay .. => s!"Failed to connect to {e.source.path}: {e.reason}"

namespace Session

/-- A session on a source that is not open yet. -/
def closed (source : Source) : Session where
  source
  endpoint := none

/-- What has to be opened; the port of a relay has to be a number. -/
def opening (s : Session) : Except OpenFault Opening :=
  match s.source with
  | .serial path => .ok (.serial path s.line)
  | .relay host port _ =>
    match Text.readInteger port.toList with
    | .ok n => .ok (.connect host n)
    | .error e => .error ⟨s.source, e.message⟩

end Session
end GnssMonitor
