import GnssMonitor.Display
import GnssMonitor.Options.Help
import GnssMonitor.Session.Opening

/-! A whole run of the program: the command line, opening the log and the source, the loop, and
the end that lets go of everything. -/

namespace GnssMonitor

/-- What a run finds outside. -/
structure Surroundings where
  hostname : String
  /-- The text with which opening the source is refused. -/
  refusal : Option String := none
  /-- What becomes of the bytes written to the source. -/
  delivery : Delivery := .full
  drainage : Drainage := .full
  refusedSpeeds : List Int := []
  /-- The mode of the terminal on the standard input, if there is one. -/
  terminal : Option TerminalMode := none
  screen : Screen := {}
  deriving DecidableEq, Repr

/-- What has come to pass by the time that a wait returns, and what comes behind it. -/
structure Scene where
  /-- What has come in from the source. -/
  arrivals : List Arrival := []
  /-- Whether the next read fails. -/
  readFails : Bool := false
  /-- What becomes of the bytes written from now on and of waiting for them to leave, the speeds
  that the port refuses and how the file system takes what is asked of it, where these change. -/
  delivery : Option Delivery := none
  drainage : Option Drainage := none
  refusedSpeeds : Option (List Int) := none
  storage : Option Storage := none
  deviceReady : Bool := false
  deviceErred : Bool := false
  typed : Option Typed := none
  signalled : Bool := false
  /-- A signal to end comes only while what the wait brought is served. -/
  signalledLate : Bool := false
  deriving DecidableEq, Repr

/-- What an endpoint has come to be. -/
def Scene.endpoint (x : Scene) (e : Endpoint) : Endpoint :=
  { x.arrivals.foldl .add e with
    readFails := e.readFails || x.readFails
    delivery := x.delivery.getD e.delivery
    drainage := x.drainage.getD e.drainage
    refused := x.refusedSpeeds.getD e.refused }

/-- How a wait ends. -/
inductive Occurrence
  | scene (x : Scene)
  | waitFailed
  /-- Word that the program's state can no longer be trusted. -/
  | violated
  | crashed
  deriving DecidableEq, Repr

namespace Occurrence

def data (bs : Bytes) : Occurrence := scene { arrivals := [.bytes bs], deviceReady := true }

/-- The end of the data. -/
def ending : Occurrence := scene { arrivals := [.ending], deviceReady := true }

def heartbeat : Occurrence := scene {}

def key (typed : Typed) : Occurrence := scene { typed }

def signal : Occurrence := scene { signalled := true }

def typed : Occurrence → Typed
  | scene x => x.typed.getD {}
  | _ => {}

def signalledLate : Occurrence → Bool
  | scene x => x.signalledLate
  | _ => false

end Occurrence

inductive RunEffect
  | opening (o : Opening)
  | line (e : LineEffect)
  | display (e : DisplayEffect)
  | pause (p : Pause)
  /-- Signals to end are recorded from here on, or again left to the system. -/
  | signals (recorded : Bool)
  | wait
  | out (text : String)
  | err (text : String)
  deriving DecidableEq, Repr

structure Run where
  monitor : Monitor
  display : Display

namespace Run

abbrev Do := Act RunEffect Run

def onDisplay {α : Type} (x : Display.Do α) : Do α :=
  Act.within (·.display) (fun d r => { r with display := d }) .display x

/-- Shows an effect of monitoring, or passes it on. -/
def perform (typed : Typed) : Effect → Do Unit
  | .line e => Act.emit (.line e)
  | .pause p => Act.emit (.pause p)
  | e => onDisplay (Display.perform typed e)

def performAll (typed : Typed) : List Effect → Do Unit
  | [] => pure ()
  | e :: rest => do
    perform typed e
    performAll typed rest

/-- Monitoring, with what it does shown in the same order. -/
def onMonitor {α : Type} (typed : Typed) (x : Monitor.Do α) : Do α := fun r =>
  let done := x r.monitor
  let shown := performAll typed done.effects { r with monitor := done.state }
  ⟨shown.value.bind fun _ => done.value, shown.state, shown.effects⟩

def initial (w : Surroundings) (o : Options) (fallback : Option Receiver) : Run :=
  let display := if o.headless
    then .console { terminal := w.terminal, pause := Console.standardPause } else .screen w.screen
  { monitor := (Session.closed (Source.ofArgument o.source),
      { hostname := w.hostname, fallback, surface := display.surface })
    display }

def closeLog : Do Unit := onMonitor {} (Monitor.onDesk Desk.closeLog)

def modifySession (f : Session → Session) : Do Unit :=
  modify fun r => { r with monitor := (f r.monitor.1, r.monitor.2) }

/-- Opens the endpoint; false when that is refused. -/
def openSource (w : Surroundings) : Do Bool := do
  match (← get).monitor.session.opening with
  | .error _ => return false
  | .ok o =>
    Act.emit (.opening o)
    if w.refusal.isSome then return false
    modifySession fun s =>
      { Session.opened s.source with
        endpoint := (Session.opened s.source).endpoint.map fun e =>
          { e with delivery := w.delivery, drainage := w.drainage, refused := w.refusedSpeeds } }
    return true

def modifyDesk (f : Desk → Desk) : Do Unit :=
  modify fun r => { r with monitor := (r.monitor.1, f r.monitor.2) }

/-- Waits. The answer is what the wait returns with. -/
def await (o : Occurrence) : Do Wait := do
  Act.emit .wait
  match o with
  | .scene x =>
    modifySession fun s => { s with endpoint := s.endpoint.map x.endpoint }
    modifyDesk fun d => { d with log.storage := x.storage.getD d.log.storage }
    return .woke
      { deviceReady := x.deviceReady
        deviceErred := x.deviceErred
        signalled := x.signalled
        reply := x.typed.map (← get).display.reply }
  | .waitFailed => return .failed
  | .violated => return .broken .invariant
  | .crashed => return .broken .crash

/-- Waits and serves what the wait brings. -/
def attend (o : Occurrence) : Do (Option Cause) := do
  onMonitor o.typed (Monitor.step (← await o))

/-- Once around the loop. A signal that came before is enough. -/
def turn (o : Occurrence) : Do (Option Cause) := do
  if (← get).monitor.desk.signalled then return some .signal
  let cause ← attend o
  if o.signalledLate then modifyDesk fun d => { d with signalled := true }
  return cause

/-- The end of the data, again and again until what is left before it has been read. -/
def runOut : Nat → Do Cause
  | 0 => return .unknown
  | n + 1 => do
    match ← turn .ending with
    | some cause => return cause
    | none => runOut n

/-- No more reads than this empty a queue. -/
def readsLeft (s : Session) : Nat :=
  match s.endpoint with
  | none => 1
  | some e =>
    (e.queue.map fun a => match a with
      | .bytes bs => bs.length + 1
      | .ending => 1).foldl (· + ·) 2

/-- The loop. When nothing more comes to pass the data ends. -/
def loop : List Occurrence → Do Cause
  | [] => do runOut (readsLeft (← get).monitor.session)
  | o :: rest => do
    match ← turn o with
    | some cause => return cause
    | none => loop rest

/-- Lets go of everything and says why the run ended. -/
def conclude (cause : Cause) : Do Nat := do
  let explanation ← onMonitor {} (Monitor.shutDown cause)
  Act.emit (.signals false)
  match explanation with
  | some text => Act.emit (.err s!"{text}\n")
  | none => pure ()
  return 0

def violationMessage : String := "gpsmon: assertion failure, probable I/O error\n"

/-- The end of a run that can no longer be trusted: the source is left alone. -/
def abandon : Do Nat := do
  closeLog
  onDisplay Display.stop
  Act.emit (.signals false)
  Act.emit (.err violationMessage)
  return 1

/-- Starts the display; false when there is nothing to show it on. -/
def startUp : Do Bool := do
  Act.emit (.signals true)
  onDisplay (Display.start (← get).monitor.prompt)

/-- From the start of the display until something ends the run. -/
def watch (script : List Occurrence) : Do Cause := do
  if ← startUp then loop script else return .unknown

/-- The end of a run, however it came. -/
def finish : Except Fault Cause → Do Nat
  | .ok cause => conclude cause
  | .error .invariant => abandon
  | .error _ => conclude .unknown

/-- Runs with an open source to the end. -/
def conduct (script : List Occurrence) : Do Nat := do finish (← Act.attempt (watch script))

/-- Asks a relay for its packets, and forbids to ask receivers unasked: some change their mode
when asked who they are. -/
def prepare (o : Options) : Do Unit := do
  let s := (← get).monitor.session
  if !s.source.isSerial then
    onMonitor {} (Monitor.onSession (Session.sendWatch o.sentencesOnly s.source.device))
  modifySession fun s => { s with readonly := true }

def openLog (o : Options) : Do Bool := do
  match o.logPath? with
  | none => return true
  | some path => onMonitor {} (Monitor.onDesk (Desk.openLog path .truncating))

/-- Opens the log and the source; the exit code if either fails. -/
def launch (w : Surroundings) (o : Options) : Do (Option Nat) := do
  if !(← openLog o) then
    Act.emit (.err "Couldn't open logfile for writing.\n")
    return some 1
  if ← openSource w then
    prepare o
    return none
  else
    closeLog
    return some 1

/-- Monitors a source. -/
def monitorSource (w : Surroundings) (o : Options) (script : List Occurrence) : Do Nat := do
  match ← launch w o with
  | some code => return code
  | none => conduct script

/-- Why the options do not name a receiver. -/
inductive Unnamed
  | bare
  | unknown
  | ambiguous
  deriving DecidableEq, Repr

/-- The receiver that the options name by the beginning of its name. -/
def namedReceiver (o : Options) : Except Unnamed (Option Receiver) :=
  match o.receiver with
  | .absent => .ok none
  | .bare => .error .bare
  | .value front =>
    match Registry.builtIn.startingWith front with
    | [h] => .ok (some h.receiver)
    | [] => .error .unknown
    | _ => .error .ambiguous

/-- What a run came to: its exit code, unless a fault escaped it, what it did and the files it
left. -/
structure Ending where
  exit : Except Fault Nat
  effects : List RunEffect
  files : List (String × Bytes) := []

def Unnamed.ending : Unnamed → Ending
  | bare => ⟨.error .noReceiverName, [], []⟩
  | unknown => ⟨.ok 1, [.err "-t option didn't match any driver.\n"], []⟩
  | ambiguous => ⟨.ok 1, [.err "-t option matched more than one driver.\n"], []⟩

def withOptions (w : Surroundings) (o : Options) (script : List Occurrence) : Ending :=
  if o.debug = .bare then ⟨.error .noDebugLevel, [], []⟩
  else if o.list then ⟨.ok 0, [.out Registry.builtIn.listing], []⟩
  else
    match namedReceiver o with
    | .error e => e.ending
    | .ok fallback =>
      let r := monitorSource w o script (initial w o fallback)
      ⟨r.value, r.effects, r.state.monitor.desk.log.files⟩

/-- The program. -/
def program (w : Surroundings) (args : List String) (script : List Occurrence) : Ending :=
  match Options.read args with
  | .error stop =>
    let (code, out, err) := stop.answer
    ⟨.ok code, [.out out, .err err], []⟩
  | .ok o => withOptions w o script

end Run
end GnssMonitor
