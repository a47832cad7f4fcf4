import GnssMonitor.Session

/-! The messages that reconfigure a receiver, and sending them. A receiver that cannot do what
is asked gets no message. -/

namespace GnssMonitor

/-- The mode in which a receiver speaks sentences. Any other number stands for binary frames. -/
def sentenceMode : Int := 0

def binaryMode : Int := 1

def parityCode? (parity : String) : Option Nat :=
  if parity = "N" then some 0
  else if parity = "O" then some 1
  else if parity = "E" then some 2
  else none

def asOverflow {α : Type} (x : Except FieldOverflow α) : Except Fault α := asFault .overflow x

/-- Which sentences a SiRF receiver shall send after a change to them: for each the interval
and whether it carries a checksum. -/
def sirfSentenceRates : Bytes :=
  [1, 1, 0, 1, 1, 1, 5, 1, 1, 1, 0, 1, 0, 1, 0, 1, 0, 1, 0, 0]

/-- The speed field of the change to sentences has 16 bits. -/
def sirfSentenceSpeedLimit : Int := 0xffff

/-- A change of mode at the present speed. -/
def ModeSwitch.message (baud mode : Int) : ModeSwitch → Except Fault (Option Bytes)
  | sirf =>
    if mode = sentenceMode then
      if sirfSentenceSpeedLimit < baud then .ok none
      else asOverflow do
        let speed ← Encoding.wordField baud
        some <$> Encoding.sirf ([0x81, 0x02] ++ sirfSentenceRates ++ speed)
    else .ok (some (Encoding.nmeaText s!"$PSRF100,0,{baud},8,1,0"))

def ashtechSpeedCode? (baud : Int) : Option Nat :=
  (([4800, 9600, 19200, 38400, 57600, 115200] : List Int).idxOf? baud).map (· + 4)

def LineSettings.isPlain (l : LineSettings) : Bool :=
  l.wordLength = 8 && l.parity = "N" && l.stopBits = 1

/-- A change of line settings; a SiRF receiver is told in the form it speaks at present. -/
def SpeedSwitch.message (speaking : PacketKind) (line : LineSettings) :
    SpeedSwitch → Except Fault (Option Bytes)
  | ashtech =>
    .ok <| match ashtechSpeedCode? line.baud, line.isPlain with
      | some code, true => some (Encoding.nmeaText s!"$PASHS,SPD,A,{code}")
      | _, _ => none
  | mediatek =>
    .ok (if line.isPlain then some (Encoding.nmeaText s!"$PMTK251,{line.baud}") else none)
  | sirf =>
    match parityCode? line.parity with
    | none => .ok none
    | some code =>
      if speaking = .nmea then
        .ok (some (Encoding.nmeaText
          s!"$PSRF100,1,{line.baud},{line.wordLength},{line.stopBits},{code}"))
      else asOverflow do
        let speed ← Encoding.longField line.baud
        let wordLength ← Encoding.byteField line.wordLength
        let stopBits ← Encoding.byteField line.stopBits
        some <$> Encoding.sirf
          ([0x86] ++ speed ++ wordLength ++ stopBits ++ [UInt8.ofNat code, 0])

/-- A change of the interval between fixes, given in seconds and sent in milliseconds. -/
def RateSwitch.message (rate : Binary64) : RateSwitch → Except Fault (Option Bytes)
  | mediatek => do
    let interval ← asFault .notFinite (rate * Binary64.ofInt 1000).round
    if 100 ≤ interval ∧ interval ≤ 10000 then
      return some (Encoding.nmeaText s!"$PMTK220,{interval}")
    else return none

def ControlFraming.message (payload : Bytes) : ControlFraming → Except Fault Bytes
  | nmea => .ok (Encoding.nmea payload)
  | sirf => asOverflow (Encoding.sirf payload)

namespace Session

/-- Lets a reconfiguration that the operator asked for write, and puts the policy back however
it ends. -/
def writable {α : Type} (x : Do α) : Do α := fun s =>
  let r := x { s with readonly := false }
  { r with state := { r.state with readonly := s.readonly } }

def incapable {α : Type} (r : Option Receiver) (c : Capability) : Do α :=
  throw (.incapable (r.map (·.name)) c)

/-- Sends a message if there is one. It was taken when any of it went out. -/
def send (message : Except Fault (Option Bytes)) : Do Bool := do
  match ← Act.lift message with
  | none => return false
  | some bs => return decide (0 < (← write bs))

def switchMode (r : Option Receiver) (mode : Int) : Do Bool := do
  match r.bind (·.modeSwitch) with
  | none => incapable r .mode
  | some m => send (m.message (← get).line.baud mode)

def switchSpeed (r : Option Receiver) (line : LineSettings) : Do Bool := do
  match r.bind (·.speedSwitch) with
  | none => incapable r .speed
  | some m => send (m.message (← get).framer.kind line)

def switchRate (r : Option Receiver) (rate : Binary64) : Do Bool := do
  match r.bind (·.rateSwitch) with
  | none => incapable r .rate
  | some m => send (m.message rate)

/-- Sends a control message in the receiver's framing; the answer is that of the write. -/
def sendControl (r : Option Receiver) (payload : Bytes) : Do Int := do
  match r.bind (·.control) with
  | none => incapable r .control
  | some c => write (← Act.lift (c.message payload))

/-- Sends a control message to the live receiver of a serial session. -/
def monitorControl (payload : Bytes) : Do Bool := do
  let s ← get
  if !s.source.isSerial then return false
  return (← writable (sendControl s.device payload)) != -1

end Session
end GnssMonitor
