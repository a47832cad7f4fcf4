import GnssMonitor.Packet.Framer
import GnssMonitor.Sentence.Fix
import GnssMonitor.Session.Line
import GnssMonitor.Source
import GnssMonitor.Timestamp

/-! A live connection to one receiver or relay: the framer of its packets, who is talking, the
last thing said and the time of the latest fix. -/

namespace GnssMonitor

structure Session where
  source : Source
  endpoint : Option Endpoint
  line : LineSettings := {}
  /-- While set, nothing is sent to the receiver unasked. -/
  readonly : Bool := true
  framer : Framer := {}
  device : Option Receiver := none
  fixTime : Binary64 := .zero
  /-- The last sentence, unless it could not be read. -/
  sentence : Option Sentence := none
  fields : Option (List String) := none
  report : Option Json := none
  /-- Announces each write before it is made. -/
  observed : Bool := false

namespace Session

/-- A session on a source that has just been opened. -/
def opened (source : Source) : Session where
  source
  endpoint := some { medium := if source.isSerial then .port else .socket }

/-- What the prompt calls the connection. -/
def describe (s : Session) (hostname : String) : String :=
  match s.source with
  | .serial path => s!"{hostname}:{path} {s.line.text}"
  | .relay _ _ device =>
    match device with
    | some d => s!"{s.source.path}:{d}"
    | none => s.source.path

abbrev Do := Act LineEffect Session

/-- Sends bytes. The answer is how many went out, or -1 when the endpoint failed. -/
def write (bs : Bytes) : Do Int := do
  let s ← get
  if s.observed then Act.emit (.observed bs)
  match s.endpoint with
  | none => throw (.absent "sendall")
  | some e =>
    match e.medium, e.delivery with
    | _, .failing => return -1
    | .port, .full =>
      Act.emit (.write bs)
      Act.emit .flush
      return bs.length
    | .port, .short =>
      Act.emit (.write bs)
      Act.emit .flush
      return (bs.length : Int) - 1
    | .port, .unflushed =>
      Act.emit (.write bs)
      return -1
    | .socket, _ =>
      Act.emit (.write bs)
      return bs.length

def port? (s : Session) : Option Endpoint := s.endpoint.filter (·.medium = .port)

/-- Why pending output does not leave the port. -/
def undrained? (s : Session) : Option Fault :=
  s.port?.bind fun e =>
    match e.drainage with
    | .full => none
    | .failing reason => some (.undrained reason)

/-- Waits until pending output has left the port. -/
def drain : Do Unit := do
  let s ← get
  match s.undrained? with
  | some e => throw e
  | none => if s.port?.isSome then Act.emit .flush

def setPort (e : Endpoint) : Do Unit := modify fun s => { s with endpoint := some e }

/-- Gives the local port new settings, the speed first. The session follows once the port has
taken them all. -/
def setLine (line : LineSettings) : Do Unit := do
  let s ← get
  match s.port? with
  | none => pure ()
  | some e =>
    if line.baud ∈ e.refused then throw (.refusedSpeed line.baud)
    Act.emit (.baud line.baud)
    let e := { e with line.baud := line.baud }
    setPort e
    if line.wordLength ∉ [7, 8] then throw (.unknownSetting (.wordLength line.wordLength))
    let e := { e with line.wordLength := line.wordLength }
    setPort e
    if line.parity ∉ ["N", "O", "E"] then throw (.unknownSetting (.parity line.parity))
    let e := { e with line.parity := line.parity }
    setPort e
    if line.stopBits ∉ [1, 2] then throw (.unknownSetting (.stopBits line.stopBits))
    setPort { e with line.stopBits := line.stopBits }
    modify fun s => { s with line }

/-- Forces the session onto a known receiver. -/
def switchReceiver (name : String) : Do Bool := do
  match Receiver.find? name with
  | none => return false
  | some r =>
    modify fun s => { s with device := some r }
    return true

/-- What is asked of a relay: packets of all kinds or sentences only, of one device or all. -/
def watchRequest (sentencesOnly : Bool) (device : Option String) : String :=
  let what := if sentencesOnly then "\"nmea\":true" else "\"raw\":2"
  let whose := match device with
    | some d => ",\"device\":\"" ++ d ++ "\""
    | none => ""
  "?WATCH=\x7b" ++ what ++ ",\"pps\":true" ++ whose ++ "\x7d\r\n"

def sendWatch (sentencesOnly : Bool) (device : Option String) : Do Unit := do
  match (← get).endpoint.filter (·.medium = .socket) with
  | none => throw (.absent "sendall")
  | some e =>
    let bs ← Act.lift (asFault .notAscii (Text.encodeAscii (watchRequest sentencesOnly device)))
    if e.delivery = .failing then throw .writeFailed
    Act.emit (.write bs)

def close : Do Unit := do
  if (← get).endpoint.isSome then
    Act.emit .close
    modify fun s => { s with endpoint := none }

/-- Who sent a packet, given who was taken for the sender before. A sentence keeps a sticky
receiver and any that speaks sentences; the last receiver whose trigger it starts with wins. -/
def identify (current : Option Receiver) (p : Packet) : Option Receiver :=
  match p.kind with
  | .sirf => some .sirf
  | .json => some .relay
  | .nmea =>
    let kept := match current with
      | some r => if r.sticky || r.kind = .nmea then r else .nmea0183
      | none => .nmea0183
    some (Receiver.all.foldl (fun r known => if known.recognises p.bytes then known else r) kept)
  | .bad => current

/-- The time of a report, if it holds any. Text that is no time is passed over, a value of
another kind is a fault. -/
def reportTime (report : Json) : Except Fault (Option Binary64) :=
  match (report.field? "time").getD .null with
  | .text cs => .ok ((Timestamp.read cs).map Instant.toSeconds)
  | v => if v.isBlank then .ok none else .error (.notText v.kindName)

def isPositionReport (report : Json) : Bool :=
  match report.field? "class" with
  | some (.text cs) => cs = Text.CodePoints.ofString "TPV"
  | _ => false

def noteFix (time : Option Binary64) : Do Unit :=
  match time with
  | some x => modify fun s => { s with fixTime := x }
  | none => pure ()

def decodeSentence (bs : Bytes) : Do Unit := do
  let text := Text.trim Text.isBlank (Text.decodeAsciiLossy bs)
  let fields := Sentence.splitCommas ((text.takeWhile (· != '*')).drop 1)
  modify fun s => { s with fields := some fields }
  match Sentence.read text with
  | .ok sentence =>
    modify fun s => { s with sentence := some sentence }
    noteFix sentence.fixTime
  | .error .unreadable => modify fun s => { s with sentence := none }
  | .error .tooFewFields => throw .tooFewFields

def decodeReport (bs : Bytes) : Do Unit := do
  match Json.read bs with
  | .ok report =>
    modify fun s => { s with report := some report }
    if isPositionReport report then noteFix (← Act.lift (reportTime report))
  | .error (.malformed _ _) => modify fun s => { s with report := none }
  | .error e => throw (.json e)

def decode (p : Packet) : Do Unit :=
  match p.kind with
  | .nmea => decodeSentence p.bytes
  | .json => decodeReport p.bytes
  | .sirf | .bad => pure ()

/-- The sentences that ask receivers for their identity. -/
def probes : List Bytes := Receiver.all.filterMap fun r => r.probe.map Encoding.nmeaText

def writeAll : List Bytes → Do Unit
  | [] => pure ()
  | bs :: rest => do
    let _ ← write bs
    writeAll rest

/-- Takes in the packet that the framer has just cut: who sent it, what it says, and the
question who is there after the first of them, if asking is allowed. -/
def accept : Do Unit := do
  let p := (← get).framer.last
  modify fun s => { s with device := identify s.device p }
  decode p
  let s ← get
  if !s.readonly && s.framer.count == 1 then writeAll probes

end Session
end GnssMonitor
