import GnssMonitor.Calendar
import GnssMonitor.Sentence

/-! When and where: the time and the position of an RMC sentence. -/

namespace GnssMonitor.Sentence

def readNat? (cs : List Char) : Option Nat :=
  match Text.readInteger cs with
  | .ok (.ofNat n) => some n
  | _ => none

/-- The part of a second after the whole ones, cut to microseconds. -/
def readMicros (cs : List Char) : Option Nat :=
  if cs.isEmpty then some 0
  else do
    let seconds ← Text.readNumber cs
    match (seconds * Binary64.ofInt 1000000).trunc with
    | .ok (.ofNat n) => some n
    | _ => none

/-- Hours, minutes and seconds, two characters each, then a fraction. -/
def readTimeOfDay (cs : List Char) : Option TimeOfDay := do
  let micro ← readMicros (cs.drop 6)
  let hour ← readNat? (cs.take 2)
  let minute ← readNat? ((cs.drop 2).take 2)
  let second ← readNat? ((cs.drop 4).take 2)
  let t : TimeOfDay := ⟨hour, minute, second, micro⟩
  if t.isValid then some t else none

def digitIn (low high : Nat) (c : Char) : Bool := low ≤ c.toNat && c.toNat ≤ high

/-- The ways to read a day at the front, in order of preference, with the text after each. -/
def dayReadings (cs : List Char) : List (Nat × List Char) :=
  let value (cs : List Char) := Text.digitsValue cs
  let long := match cs with
    | a :: b :: rest =>
      if (a == '3' && (b == '0' || b == '1')) || (digitIn 0x31 0x32 a && Text.isDigit b) ||
          (a == '0' && digitIn 0x31 0x39 b) then [(value [a, b], rest)] else []
    | _ => []
  let short := match cs with
    | a :: rest => if digitIn 0x31 0x39 a then [(value [a], rest)] else []
    | [] => []
  let padded := match cs with
    | ' ' :: b :: rest => if digitIn 0x31 0x39 b then [(value [b], rest)] else []
    | _ => []
  long ++ short ++ padded

/-- The ways to read a month at the front, in order of preference. -/
def monthReadings (cs : List Char) : List (Nat × List Char) :=
  let value (cs : List Char) := Text.digitsValue cs
  let long := match cs with
    | a :: b :: rest =>
      if (a == '1' && digitIn 0x30 0x32 b) || (a == '0' && digitIn 0x31 0x39 b)
      then [(value [a, b], rest)] else []
    | _ => []
  let short := match cs with
    | a :: rest => if digitIn 0x31 0x39 a then [(value [a], rest)] else []
    | [] => []
  long ++ short

def yearReadings : List Char → List (Nat × List Char)
  | a :: b :: rest =>
    if Text.isDigit a && Text.isDigit b then [(Text.digitsValue [a, b], rest)] else []
  | _ => []

/-- The years from 69 on belong to the last century. -/
def fullYear (n : Nat) : Nat := if 69 ≤ n then 1900 + n else 2000 + n

/-- Day, month and year; the first reading that gets through all three counts, and it has to
use up the text. -/
def readDate (cs : List Char) : Option Date := do
  let readings := (dayReadings cs).flatMap fun (day, rest) =>
    (monthReadings rest).flatMap fun (month, rest) =>
      (yearReadings rest).map fun (year, rest) => ((⟨fullYear year, month, day⟩ : Date), rest)
  let (date, rest) ← readings.head?
  if rest.isEmpty && date.isValid then some date else none

/-- The moment of a fix; only an RMC sentence with both a date and a time has one. -/
def fixInstant (s : Sentence) : Option Instant :=
  if s.kind = .rmc then
    match convert readTimeOfDay (s.field 0), convert readDate (s.field 8) with
    | .value t, .value d => some (Instant.ofCivil d t)
    | _, _ => none
  else none

def fixTime (s : Sentence) : Option Binary64 := s.fixInstant.map Instant.toSeconds

/-- The time of the fix as the panel shows it. -/
def fixText (s : Sentence) : Option String :=
  s.fixTime.bind fun x => (Instant.ofSeconds x).toOption.map Instant.text

/-- Degrees from digits whose last two before the point are whole minutes. No text and a lone
zero are zero degrees. -/
def readDegrees (text : String) : Option Binary64 :=
  let cs := text.toList
  if text.isEmpty ∨ text = "0" then some Binary64.zero
  else
    let whole := cs.takeWhile Text.isDigit
    match cs.dropWhile Text.isDigit with
    | '.' :: fraction =>
      if 3 ≤ whole.length ∧ !fraction.isEmpty ∧ fraction.all Text.isDigit then
        let split := whole.length - 2
        let degrees := Binary64.ofDecimal false (Text.digitsValue (whole.take split)) 0
        let minutes := Binary64.ofDecimal false
          (Text.digitsValue (whole.drop split ++ fraction)) (-(fraction.length : Int))
        some (degrees + minutes / Binary64.ofInt 60)
      else none
    | _ => none

/-- Signed degrees; any other direction gives zero. -/
def signedDegrees (text direction positive negative : String) : Option Binary64 :=
  (readDegrees text).map fun x =>
    if direction = positive then x else if direction = negative then -x else Binary64.zero

def latitude (s : Sentence) : Option Binary64 := signedDegrees (s.field 2) (s.field 3) "N" "S"

def longitude (s : Sentence) : Option Binary64 := signedDegrees (s.field 4) (s.field 5) "E" "W"

end GnssMonitor.Sentence
