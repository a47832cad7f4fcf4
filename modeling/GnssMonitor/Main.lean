import GnssMonitor.Run

/-! The program on a real system. A device is read and written by its path, the packets of a
relay come in on the standard input and requests to it go out on the standard error. Packets are
shown as lines. -/

namespace GnssMonitor.Program

/-- The run, what has come to pass and is not served yet, and where its bytes go. -/
structure Station where
  run : IO.Ref Run
  queue : IO.Ref (List Occurrence)
  device : IO.FS.Stream
  log : Option IO.FS.Handle

def bytesOf (data : ByteArray) : Bytes := data.toList

def write (stream : IO.FS.Stream) (bs : Bytes) : IO Unit := do
  stream.write ⟨bs.toArray⟩
  stream.flush

def sleepFor (seconds : Binary64) : IO Unit :=
  match (seconds * Binary64.ofInt 1000).trunc with
  | .ok (.ofNat n) => IO.sleep n.toUInt32
  | _ => pure ()

def act (s : Station) : RunEffect → IO Unit
  | .out text | .display (.console (.out text)) => do write (← IO.getStdout) (Bytes.ofString text)
  | .err text | .display (.console (.err text)) => do write (← IO.getStderr) (Bytes.ofString text)
  | .line (.write bs) => write s.device bs
  | .pause p => sleepFor p.seconds
  | .display (.console (.sleep seconds)) => sleepFor seconds
  | .line _ | .display _ | .opening _ | .signals _ | .wait => pure ()

/-- What stands in the log of the run. -/
def logged (r : Run) : Bytes :=
  let log := r.monitor.desk.log
  ((log.files.head?).map (·.2)).getD []

/-- Carries out a part of the run and what it does to the outside. -/
def perform {α : Type} (s : Station) (x : Run.Do α) : IO (Except Fault α) := do
  let before ← s.run.get
  let done := x before
  s.run.set done.state
  done.effects.forM (act s)
  match s.log with
  | some h => h.write ⟨((logged done.state).drop (logged before).length).toArray⟩
  | none => pure ()
  return done.value

def add (s : Station) (o : Occurrence) : IO Unit := s.queue.modify (· ++ [o])

/-- Reads the device to its end. -/
partial def readDevice (s : Station) : IO Unit := do
  let data ← s.device.read 4096
  if data.isEmpty then add s .ending
  else
    add s (.data (bytesOf data))
    readDevice s

/-- Reads the operator's lines to their end. -/
partial def readOperator (s : Station) : IO Unit := do
  let line ← (← IO.getStdin).getLine
  match Bytes.ofString line with
  | [] => add s (.key {})
  | key :: _ =>
    add s (.key ⟨some key, (line.drop 1).toString⟩)
    readOperator s

def heartbeat : UInt32 := 20

/-- Serves what comes to pass, one thing after the other, until something ends the run. -/
partial def serve (s : Station) : IO (Except Fault Cause) := do
  match ← s.queue.get with
  | [] =>
    IO.sleep heartbeat
    serve s
  | o :: _ =>
    s.queue.modify (·.drop 1)
    match ← perform s (Run.turn o) with
    | .ok none => serve s
    | .ok (some cause) => return .ok cause
    | .error e => return .error e

def exitCode : Except Fault Nat → IO UInt32
  | .ok n => pure n.toUInt32
  | .error e => do
    write (← IO.getStderr) (Bytes.ofString s!"{e.message}\n")
    return 1

/-- Opens the source; the text of the refusal if that fails. -/
def openDevice (source : Source) : IO (Except String IO.FS.Stream) :=
  match source with
  | .serial path => do
    try return .ok (IO.FS.Stream.ofHandle (← IO.FS.Handle.mk path .readWrite))
    catch e => return .error (toString e)
  | .relay .. => do
    let input ← IO.getStdin
    let output ← IO.getStderr
    return .ok { input with write := output.write, flush := output.flush }

/-- Opens the packet log under a name of the run's own. -/
def openLogFile (o : Options) : IO (Options × Option IO.FS.Handle) := do
  match o.logPath? with
  | none => return (o, none)
  | some path =>
    try return ({ o with logFile := .value "log" }, some (← IO.FS.Handle.mk path .write))
    catch _ => return ({ o with logFile := .value "." }, none)

/-- Monitors a source until its end. -/
def monitor (o : Options) (fallback : Option Receiver) : IO UInt32 := do
  let source := Source.ofArgument o.source
  let (o, log) ← openLogFile { o with headless := true }
  let opened ← openDevice source
  let (device, refusal) ← match opened with
    | .ok device => pure (device, none)
    | .error text => do pure (← IO.getStderr, some text)
  let w : Surroundings := { hostname := "localhost", refusal }
  let s : Station :=
    { run := ← IO.mkRef (Run.initial w o fallback), queue := ← IO.mkRef [], device, log }
  match ← perform s (Run.launch w o) with
  | .error e => exitCode (.error e)
  | .ok (some code) => return code.toUInt32
  | .ok none =>
    let _ ← IO.asTask (readDevice s)
    if source.isSerial then
      let _ ← IO.asTask (readOperator s)
    match ← perform s Run.startUp with
    | .ok true => exitCode (← perform s (Run.finish (← serve s)))
    | .ok false => exitCode (← perform s (Run.finish (.ok .unknown)))
    | .error e => exitCode (← perform s (Run.finish (.error e)))

def start (args : List String) : IO UInt32 := do
  match Options.read args with
  | .ok o =>
    match Run.namedReceiver o with
    | .ok fallback => if o.list || o.debug = .bare then pure () else return ← monitor o fallback
    | .error _ => pure ()
  | .error _ => pure ()
  let ending := Run.program { hostname := "localhost" } args []
  for e in ending.effects do
    match e with
    | .out text => write (← IO.getStdout) (Bytes.ofString text)
    | .err text => write (← IO.getStderr) (Bytes.ofString text)
    | _ => pure ()
  exitCode ending.exit

end GnssMonitor.Program

def main (args : List String) : IO UInt32 := GnssMonitor.Program.start args
