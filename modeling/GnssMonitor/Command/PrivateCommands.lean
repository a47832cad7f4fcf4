import GnssMonitor.Command
import GnssMonitor.Monitor
import GnssMonitor.Receiver.Reconfiguration

/-! Commands that only the active handler knows. Ashtech receivers are set up anew: N turns on
the ordinary sentences, R the raw ones too. -/

namespace GnssMonitor

namespace AshtechSetup

/-- All output off, then the ordinary sentences on. -/
def ordinary : List String :=
  ["$PASHS,NME,ALL,A,OFF", "$PASHS,NME,ALL,B,OFF", "$PASHS,NME,GGA,A,ON",
    "$PASHS,NME,GSA,A,ON", "$PASHS,NME,GSV,A,ON", "$PASHS,NME,RMC,A,ON",
    "$PASHS,NME,ZDA,A,ON"]

/-- Solution, satellites, measurements, position, almanac and exceptions. -/
def raw : List String :=
  ["$PASHS,NME,POS,A,ON", "$PASHS,NME,SAT,A,ON", "$PASHS,NME,MCA,A,ON",
    "$PASHS,NME,PBN,A,ON", "$PASHS,NME,SNV,A,ON,10", "$PASHS,NME,XMG,A,ON"]

/-- Restarts the receiver with codes for the speeds of its two ports. -/
def restart (speedCode : Nat) : String := s!"$PASHS,INI,{speedCode},5,,,0,"

def augmentation : String := "$PASHS,WAS,ON"

end AshtechSetup

namespace Monitor

def sendSentences : List String → Do Unit
  | [] => pure ()
  | sentence :: rest => do
    let _ ← onSession (Session.monitorControl (Bytes.ofString sentence))
    sendSentences rest

/-- Sets an Ashtech receiver up and lets it restart. -/
def setUpAshtech (speedCode : Nat) (extra : List String) : Do Unit := do
  sendSentences AshtechSetup.ordinary
  sendSentences [AshtechSetup.restart speedCode]
  Act.emit (.pause .reboot)
  sendSentences [AshtechSetup.augmentation]
  sendSentences extra

def ashtechCommand (line : List Char) : Do CommandStatus := do
  match line with
  | 'N' :: _ =>
    setUpAshtech 5 []
    return .matched
  | 'R' :: _ =>
    setUpAshtech 8 AshtechSetup.raw
    return .matched
  | _ => return .unknown

/-- What a handler makes of the line. -/
def tryPrivately (h : Handler) (line : List Char) : Do CommandStatus := do
  match h.presentation with
  | .panel true => ashtechCommand line
  | .hooks { command := some table, .. } =>
    return ((table.find? (·.1 == String.ofList line)).map (·.2)).getD .unknown
  | _ => return .unknown

/-- Gives the line to the active handler. -/
def privateCommand (line : List Char) : Do CommandStatus := do
  match (← get).desk.active with
  | none => return .unknown
  | some h =>
    if h.isPrivate then Act.emit (.hook h.name (.command (String.ofList line)))
    tryPrivately h line

end Monitor
end GnssMonitor
