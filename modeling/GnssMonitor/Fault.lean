import GnssMonitor.Json.Reader
import GnssMonitor.Packet.Encoding
import GnssMonitor.Packet.Hex
import GnssMonitor.Receiver

/-! Everything that can stop an action, and how it is put to the operator. -/

namespace GnssMonitor

/-- A setting of the serial line that the port does not know. -/
inductive UnknownSetting
  | wordLength (n : Int)
  | parity (text : String)
  | stopBits (n : Int)
  deriving DecidableEq, Repr

inductive Fault
  /-- A receiver without the capability asked for; none when no receiver is known yet. -/
  | incapable (receiver : Option String) (capability : Capability)
  | overflow (field : FieldOverflow)
  | hex (e : HexFault)
  | notAscii (e : Text.NotAscii)
  | notInteger (e : Text.IntegerFault)
  | json (e : Json.ReadFault)
  /-- A time report without a time in a field. -/
  | badTimeField (reason : String)
  /-- A value that should be text. -/
  | notText (kindName : String)
  | tooFewFields
  | integerTooLarge
  | notFinite (e : Binary64.NotFinite)
  | refusedSpeed (baud : Int)
  | unknownSetting (s : UnknownSetting)
  /-- An operation on an endpoint or a window that is not there. -/
  | absent (operation : String)
  | writeFailed
  /-- Pending output does not leave the port. -/
  | undrained (reason : String)
  /-- The refusal of what was asked of a log file. -/
  | storage (reason : String)
  | closedFile
  | duplicateHandler (name : String)
  | zeroInFileName
  | inputClosed
  | windowRefused
  /-- An option that has to have a value and was given none. -/
  | noDebugLevel
  | noReceiverName
  /-- The run can no longer be trusted. -/
  | invariant
  | crash
  deriving DecidableEq, Repr

namespace Fault

def message : Fault → String
  | incapable none c => s!"Device type None has no {c.name}"
  | incapable (some r) c => s!"Device type {r} has no {c.name}"
  | overflow f => f.message
  | hex e => e.message
  | notAscii e => e.message
  | notInteger e => e.message
  | json e => e.message
  | badTimeField reason => "missing or bad field " ++ reason
  | notText kind => s!"'{kind}' object has no attribute 'replace'"
  | tooFewFields => "list index out of range"
  | integerTooLarge => "int too large to convert to float"
  | notFinite .nan => "cannot convert float NaN to integer"
  | notFinite .infinite => "cannot convert float infinity to integer"
  | refusedSpeed n => s!"Not a valid baudrate: {n}"
  | unknownSetting (.wordLength n) => toString n
  | unknownSetting (.parity text) => Text.quoted text
  | unknownSetting (.stopBits n) => toString n
  | absent operation => s!"'NoneType' object has no attribute '{operation}'"
  | writeFailed => "write failed"
  | undrained reason => reason
  | storage reason => reason
  | closedFile => "write to closed file"
  | duplicateHandler name => s!"Duplicate handler for {name}"
  | zeroInFileName => "embedded null byte"
  | inputClosed => "operator input closed"
  | windowRefused => "addstr() returned ERR"
  | noDebugLevel => "unhashable type: 'list'"
  | noReceiverName => "startswith first arg must be str or a tuple of str, not list"
  | invariant => "SIGABRT received"
  | crash => "crash"

end Fault

/-- Lets a failure of another kind stop an action. -/
def asFault {ε α : Type} (f : ε → Fault) (x : Except ε α) : Except Fault α := x.mapError f

end GnssMonitor
