import GnssMonitor.Packet

/-! The receivers the monitor knows: what each sends, how it is recognised and which of the four
reconfigurations it accepts. -/

namespace GnssMonitor

/-- Who carries out a change between sentences and binary frames. -/
inductive ModeSwitch
  | sirf
  deriving DecidableEq, Repr

inductive SpeedSwitch
  | ashtech
  | mediatek
  | sirf
  deriving DecidableEq, Repr

inductive RateSwitch
  | mediatek
  deriving DecidableEq, Repr

/-- How a control message is framed. -/
inductive ControlFraming
  | nmea
  | sirf
  deriving DecidableEq, Repr

structure Receiver where
  name : String
  kind : PacketKind
  /-- Keeps its panel when it falls back to plain sentences. -/
  sticky : Bool := false
  /-- The sentence that asks for its identity. -/
  probe : Option String := none
  /-- What a sentence starts with that tells it. -/
  trigger : Option String := none
  modeSwitch : Option ModeSwitch := none
  speedSwitch : Option SpeedSwitch := none
  rateSwitch : Option RateSwitch := none
  control : Option ControlFraming := none
  deriving DecidableEq, Repr

namespace Receiver

def nmea0183 : Receiver where
  name := "NMEA0183"
  kind := .nmea
  control := some .nmea

def ashtech : Receiver where
  name := "Ashtech"
  kind := .nmea
  probe := some "$PASHQ,RID"
  trigger := some "$PASHR,RID,"
  speedSwitch := some .ashtech
  control := some .nmea

def mtk3301 : Receiver where
  name := "MTK-3301"
  kind := .nmea
  probe := some "$PMTK605"
  trigger := some "$PMTK705,"
  speedSwitch := some .mediatek
  rateSwitch := some .mediatek
  control := some .nmea

def sirf : Receiver where
  name := "SiRF"
  kind := .sirf
  sticky := true
  modeSwitch := some .sirf
  speedSwitch := some .sirf
  control := some .sirf

def garmin : Receiver where
  name := "Garmin NMEA"
  kind := .nmea
  probe := some "$PGRMCE"
  trigger := some "$PGRMC,"
  control := some .nmea

def fv18 : Receiver where
  name := "San Jose Navigation FV18"
  kind := .nmea
  trigger := some "$PFEC,GPint,"
  control := some .nmea

def gpsClock : Receiver where
  name := "Furuno Electric GH-79L4"
  kind := .nmea
  trigger := some "$PFEC,GPssd"
  control := some .nmea

/-- Ship transponders; there is nothing to reconfigure. -/
def aivdm : Receiver where
  name := "AIVDM"
  kind := .nmea
  trigger := some "!AIVDM"

/-- A daemon that does the talking. -/
def relay : Receiver where
  name := "JSON slave driver"
  kind := .json

def all : List Receiver :=
  [nmea0183, ashtech, mtk3301, sirf, garmin, fv18, gpsClock, aivdm, relay]

def find? (name : String) : Option Receiver := all.find? (·.name == name)

/-- Whether a sentence starts with the receiver's trigger. -/
def recognises (r : Receiver) (sentence : Bytes) : Bool :=
  match r.trigger with
  | some t => (Bytes.ofString t).isPrefixOf sentence
  | none => false

end Receiver

inductive Capability
  | mode
  | speed
  | rate
  | control
  deriving DecidableEq, Repr

namespace Capability

def all : List Capability := [mode, speed, rate, control]

def name : Capability → String
  | mode => "mode_switcher"
  | speed => "speed_switcher"
  | rate => "rate_switcher"
  | control => "control_send"

def letter : Capability → String
  | mode => "n"
  | speed => "s"
  | rate => "c"
  | control => "x"

end Capability

namespace Receiver

def has (r : Receiver) : Capability → Bool
  | .mode => r.modeSwitch.isSome
  | .speed => r.speedSwitch.isSome
  | .rate => r.rateSwitch.isSome
  | .control => r.control.isSome

def capabilities (r : Option Receiver) : List Capability :=
  match r with
  | none => []
  | some r => Capability.all.filter r.has

/-- A letter for each capability, a blank for one that is missing. -/
def letters (r : Option Receiver) : String :=
  " ".intercalate (Capability.all.map fun c => if c ∈ capabilities r then c.letter else " ")

/-- The remembered receiver is asked when it has the capability, else the live one. -/
def select (c : Capability) (live fallback : Option Receiver) : Option Receiver :=
  match fallback with
  | some f => if f.has c then some f else live
  | none => live

end Receiver
end GnssMonitor
