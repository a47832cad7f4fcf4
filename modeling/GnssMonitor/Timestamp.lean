import GnssMonitor.Bytes
import GnssMonitor.Calendar
import GnssMonitor.Text.Encoding

/-! Reading times in the ISO 8601 formats: calendar or week dates, with or without separators,
any one character before the time of day, a fraction cut to microseconds, an offset of less
than a day. Where an offset follows, a character out of place right before it is overlooked. -/

namespace GnssMonitor.Timestamp

open Text (CodePoints)

def dash : UInt8 := 0x2d

def colon : UInt8 := 0x3a

def isDigit (b : UInt8) : Bool := 0x30 ≤ b && b ≤ 0x39

/-- The value of exactly so many digits at the front, and the rest. -/
def takeDigits (count : Nat) (bs : Bytes) : Option (Nat × Bytes) :=
  let front := bs.take count
  if front.length = count ∧ front.all isDigit then
    some (front.foldl (fun n b => n * 10 + (b.toNat - 0x30)) 0, bs.drop count)
  else none

def byteAt (bs : Bytes) (i : Nat) : UInt8 := bs.getD i 0

/-- Where the date ends. A week date followed by digits is told from one with a day by whether
the row of digits is even. -/
def dateLength (bs : Bytes) : Option Nat :=
  if bs.length = 7 then some 7
  else if byteAt bs 4 = dash then
    if byteAt bs 5 = 0x57 then
      if 8 < bs.length ∧ byteAt bs 8 = dash then
        if bs.length = 9 then none
        else if 10 < bs.length ∧ isDigit (byteAt bs 10) then some 8
        else some 10
      else some 8
    else some 10
  else if byteAt bs 4 = 0x57 then
    let reach := 7 + ((bs.drop 7).takeWhile isDigit).length
    if reach < 9 then some reach else if reach % 2 = 0 then some 7 else some 8
  else some 8

/-- The date at the front, which stands in the first `length` bytes. -/
def readDate (length : Nat) (bs : Bytes) : Option Date := do
  let (year, rest) ← takeDigits 4 bs
  let dashed := rest.head? = some dash
  let rest := if dashed then rest.drop 1 else rest
  let pastDash (bs : Bytes) : Option Bytes :=
    if dashed then if bs.head? = some dash then some (bs.drop 1) else none else some bs
  match rest with
  | 0x57 :: rest => do
    let (week, rest) ← takeDigits 2 rest
    if bs.length - rest.length < length then
      let (day, _) ← takeDigits 1 (← pastDash rest)
      Date.ofWeek? year week day
    else Date.ofWeek? year week 1
  | _ => do
    let (month, rest) ← takeDigits 2 rest
    let (day, _) ← takeDigits 2 (← pastDash rest)
    let d : Date := ⟨year, month, day⟩
    if d.isValid then some d else none

/-- Hours, minutes, seconds and microseconds as written, not yet held to their ranges, and
whether a character out of place ended the reading. -/
structure Clock where
  time : TimeOfDay
  stray : Bool

/-- Whether the text breaks off here: a zero byte counts as its end. -/
def breaksOff : Bytes → Bool
  | [] => false
  | b :: _ => b != 0

/-- At most six digits are kept, the digits after them skipped. -/
def readFraction (t : TimeOfDay) (bs : Bytes) : Option Clock := do
  let count := min 6 bs.length
  let (n, rest) ← takeDigits count bs
  some ⟨{ t with micro := n * Nat.pow 10 (6 - count) }, breaksOff (rest.dropWhile isDigit)⟩

def isPoint (b : UInt8) : Bool := b == 0x2e || b == 0x2c

/-- What follows a pair of digits: nothing, one last character, a point and a fraction, or more;
`next` reads on after a colon, or at once where the first pair was not followed by one. -/
def readOn (t : TimeOfDay) (separated : Bool) (rest : Bytes) (next : Bytes → Option Clock) :
    Option Clock :=
  match rest with
  | [] => some ⟨t, false⟩
  | [b] => some ⟨t, b != 0⟩
  | b :: more =>
    if separated && b == colon then next more
    else if isPoint b then readFraction t more
    else if !separated then next rest
    else none

def readClock (bs : Bytes) : Option Clock := do
  let (hour, rest) ← takeDigits 2 bs
  let separated := rest.head? == some colon
  let t : TimeOfDay := ⟨hour, 0, 0, 0⟩
  readOn t separated rest fun rest => do
    let (minute, rest) ← takeDigits 2 rest
    let t := { t with minute }
    readOn t separated rest fun rest => do
      let (second, rest) ← takeDigits 2 rest
      let t := { t with second }
      readOn t separated rest (readFraction t)

def isSign (b : UInt8) : Bool := b == 0x2b || b == dash

/-- Microseconds to the east, less than a day. A part of a second alone is no offset. -/
def readOffset (west : Bool) (bs : Bytes) : Option Int := do
  let clock ← readClock bs
  let seconds := clock.time.seconds
  let size : Int := if seconds = 0 then 0 else (seconds * 1000000 + clock.time.micro : Nat)
  if clock.stray ∨ Instant.microsPerDay ≤ size then none
  else some (if west then -size else size)

/-- The time of day and the offset, zero where none is given. -/
def readTime (bs : Bytes) : Option (TimeOfDay × Int) := do
  let clock ← readClock (bs.takeWhile (!isSign ·))
  if !clock.time.isValid then none
  else match bs.dropWhile (!isSign ·) with
  | [] => if clock.stray then none else some (clock.time, 0)
  | sign :: rest => (readOffset (sign == dash) rest).map (clock.time, ·)

/-- The length of the character that starts with this byte. -/
def characterLength (b : UInt8) : Nat :=
  if b < 0x80 then 1 else if b &&& 0xf0 = 0xe0 then 3 else if b &&& 0xf0 = 0xf0 then 4 else 2

def readBytes (bs : Bytes) : Option Instant := do
  if bs.length < 7 then none
  let length ← dateLength bs
  let date ← readDate length bs
  match bs.drop length with
  | [] => some (Instant.ofCivil date ⟨0, 0, 0, 0⟩)
  | b :: rest =>
    let (time, offset) ← readTime ((b :: rest).drop (characterLength b))
    some ⟨(Instant.ofCivil date time).micros - offset⟩

/-- A capital Z stands for the offset zero wherever it is. -/
def expandZulu (cs : CodePoints) : CodePoints :=
  cs.flatMap fun c => if c = 0x5a then CodePoints.ofString "+00:00" else [c]

/-- The places where the character between a date and a time of day can stand. -/
def separatorPlaces : List Nat := [7, 8, 10]

/-- The text as characters. A surrogate has no place in it, but that the first one at a place of
the separator may stand for any separator. -/
def separated (cs : CodePoints) : Option (List Char) :=
  let place := separatorPlaces.find? fun i => cs[i]?.any Text.isSurrogate
  let cs := match place with
    | some i => cs.set i 0x54
    | none => cs
  if cs.any Text.isSurrogate then none else some (CodePoints.toChars cs)

def read (cs : CodePoints) : Option Instant := do
  readBytes (Bytes.ofString (String.ofList (← separated (expandZulu cs))))

end GnssMonitor.Timestamp
