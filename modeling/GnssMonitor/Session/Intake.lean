import GnssMonitor.Session

/-! Taking in what an endpoint has to read: each packet is taken note of and handed to a hook,
which sees the session but changes only its own state. -/

namespace GnssMonitor

inductive IntakeStatus
  | ready
  | unready
  | error
  | eof
  deriving DecidableEq, Repr

namespace Session

variable {ε τ : Type}

def onSession {α : Type} (embed : LineEffect → ε) (x : Do α) : Act ε (Session × τ) α :=
  Act.within Prod.fst (fun s w => (s, w.2)) embed x

def runHook (hook : Session → Act ε τ Unit) : Act ε (Session × τ) Unit := do
  let w ← get
  Act.within Prod.snd (fun t w => (w.1, t)) id (hook w.1)

/-- One packet, given the framer just after it was cut. -/
def takeIn (embed : LineEffect → ε) (hook : Session → Act ε τ Unit) (f : Framer) :
    Act ε (Session × τ) Unit := do
  onSession embed (modify fun s => { s with framer := f })
  onSession embed accept
  runHook hook

def takeInAll (embed : LineEffect → ε) (hook : Session → Act ε τ Unit) :
    List Framer → Act ε (Session × τ) Unit
  | [] => pure ()
  | f :: rest => do
    takeIn embed hook f
    takeInAll embed hook rest

/-- All the packets in newly read bytes. A packet that stops the intake leaves those after it
in the framer. -/
def takeInBytes (embed : LineEffect → ε) (hook : Session → Act ε τ Unit) (bs : Bytes) :
    Act ε (Session × τ) Unit := do
  let (cuts, rest) := ((← get).1.framer.feed bs).drain
  takeInAll embed hook cuts
  onSession embed (modify fun s => { s with framer := rest })

/-- One read of the endpoint. A port that reads nothing has gone away; a socket is at its end. -/
def intake (embed : LineEffect → ε) (hook : Session → Act ε τ Unit) :
    Act ε (Session × τ) IntakeStatus := do
  let s := (← get).1
  match s.endpoint with
  | none => throw (.absent "recv")
  | some e =>
    let (data, e) := e.receive
    onSession embed (modify fun s => { s with endpoint := some e })
    match data with
    | none => return .error
    | some [] => return if s.source.isSerial then .unready else .eof
    | some bs =>
      takeInBytes embed hook bs
      return .ready

end Session
end GnssMonitor
