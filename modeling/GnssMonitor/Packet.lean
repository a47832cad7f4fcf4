import GnssMonitor.Bytes

/-! What a receiver or a relay sends: NMEA sentences, JSON objects and SiRF binary frames. -/

namespace GnssMonitor

inductive PacketKind
  | bad
  | nmea
  | json
  | sirf
  deriving DecidableEq, Repr, Inhabited

namespace PacketKind

def name : PacketKind → String
  | bad => "bad"
  | nmea => "NMEA"
  | json => "JSON"
  | sirf => "SiRF"

def isTextual : PacketKind → Bool
  | nmea | json => true
  | bad | sirf => false

end PacketKind

/-- The longest sentence, with room for vendor extensions. -/
def sentenceLimit : Nat := 102

/-- The longest packet of any kind. -/
def packetLimit : Nat := 9216

structure Packet where
  kind : PacketKind
  bytes : Bytes
  deriving DecidableEq, Repr

def isLeader (b : UInt8) : Bool := b == 0x24 || b == 0x21

def openBrace : UInt8 := 0x7b

def star : UInt8 := 0x2a

def lineFeed : UInt8 := 0x0a

def carriageReturn : UInt8 := 0x0d

end GnssMonitor
