import GnssMonitor.Binary64.Decimal
import GnssMonitor.Fault

/-! Offsets between the local clock and the receiver's seconds, from time reports and pulses,
and their correlation with the stream of fixes. -/

namespace GnssMonitor

structure TimeSample where
  clock : Binary64
  real : Binary64
  deriving DecidableEq, Repr

def TimeSample.offset (s : TimeSample) : Binary64 := s.clock - s.real

/-- What a tracker tells the operator. -/
inductive Notice
  | report (text : String)
  | complain (text : String)
  deriving DecidableEq, Repr

inductive TimeReportKind
  | toff
  | pps
  deriving DecidableEq, Repr

def TimeReportKind.name : TimeReportKind → String
  | toff => "TOFF"
  | pps => "PPS"

/-- Only the latest sample of each kind is kept. A latch is the time of a fix and the report
that was current then. -/
structure Tracker where
  report : Option TimeSample := none
  pulse : Option TimeSample := none
  pulseCount : Nat := 0
  fixReference : Binary64 := .zero
  latched : Option (Binary64 × Option TimeSample) := none
  deriving DecidableEq, Repr

namespace TimeReport

/-- An object that has the field, or why it has not. -/
def require (key : String) (report : Json) : Except Fault Json :=
  match report with
  | .object _ =>
    match report.field? key with
    | some v => .ok v
    | none => .error (.badTimeField (Text.quoted key))
  | .array _ => .error (.badTimeField "list indices must be integers or slices, not str")
  | .text _ => .error (.badTimeField "string indices must be integers, not 'str'")
  | v => .error (.badTimeField s!"'{v.kindName}' object is not subscriptable")

def ofInteger (n : Int) : Except Fault Binary64 :=
  match Binary64.ofInt? n with
  | some x => .ok x
  | none => .error .integerTooLarge

/-- A number, a truth value counting as 0 or 1, or nothing for a value of another kind. -/
def asNumber? : Json → Option (Except Fault Binary64)
  | .bool b => some (.ok (Binary64.ofInt (if b then 1 else 0)))
  | .int n => some (ofInteger n)
  | .number x => some (.ok x)
  | _ => none

def nanosPerSecond : Binary64 := Binary64.ofInt 1000000000

/-- The nanoseconds as seconds. -/
def fraction (v : Json) : Except Fault Binary64 :=
  match asNumber? v with
  | some x => x.map (· / nanosPerSecond)
  | none => .error (.badTimeField
      s!"unsupported operand type(s) for /: '{v.kindName}' and 'float'")

def addSeconds (v : Json) (fraction : Binary64) : Except Fault Binary64 :=
  match asNumber? v with
  | some x => x.map (· + fraction)
  | none =>
    match v with
    | .text _ | .array _ =>
      .error (.badTimeField s!"can only concatenate {v.kindName} (not \"float\") to {v.kindName}")
    | _ => .error (.badTimeField
        s!"unsupported operand type(s) for +: '{v.kindName}' and 'float'")

/-- The seconds of a report and, if given, its nanoseconds. -/
def time (name : String) (report : Json) : Except Fault Binary64 := do
  let seconds ← require (name ++ "_sec") report
  let nanos := (report.field? (name ++ "_nsec")).getD (.int 0)
  addSeconds seconds (← fraction nanos)

def read (payload : Bytes) : Except Fault TimeSample := do
  let report ← asFault .json (Json.read payload)
  let clock ← time "clock" report
  let real ← time "real" report
  return ⟨clock, real⟩

/-- Whether a fault is what an ill-formed report gives; others are not the report's doing. -/
def isComplaint : Fault → Bool
  | .json (.tooDeep _) => false
  | .json _ | .badTimeField _ => true
  | _ => false

end TimeReport

namespace Tracker

def seconds (x : Binary64) : String := x.fixed 9

/-- Takes a sample of the kind and tells the operator. -/
def take (kind : TimeReportKind) (s : TimeSample) (t : Tracker) : Tracker × Notice :=
  match kind with
  | .toff =>
    ({ t with report := some s },
      .report (s!"TOFF={seconds s.clock} real={seconds s.real} offset={seconds s.offset}\n"))
  | .pps =>
    ({ t with pulse := some s, pulseCount := t.pulseCount + 1 },
      .report s!"------------------- PPS offset: {seconds s.offset} ------\n")

/-- Takes the sample of a report. An ill-formed one is complained of and changes nothing. -/
def handle (kind : TimeReportKind) (payload : Bytes) (t : Tracker) :
    Except Fault (Tracker × Notice × Option TimeSample) :=
  match TimeReport.read payload with
  | .ok s =>
    let (t, notice) := t.take kind s
    .ok (t, notice, some s)
  | .error e =>
    if TimeReport.isComplaint e then
      .ok (t, .complain s!"Ill-formed {kind.name} packet: {e.message}", none)
    else .error e

/-- Latches the current report against a fix, once for each new second of the fixes. -/
def afterPacket (fixTime : Binary64) (t : Tracker) : Except Fault (Tracker × Bool) :=
  if fixTime.le .zero then .ok (t, false)
  else do
    let second ← asFault .notFinite fixTime.trunc
    let latest ← asFault .notFinite t.fixReference.trunc
    if second ≤ latest then return (t, false)
    return ({ t with latched := some (fixTime, t.report), fixReference := fixTime }, true)

end Tracker
end GnssMonitor
