import GnssMonitor.Binary64.Decimal

/-! The Gregorian calendar from year 1 to 9999 and instants counted in microseconds from the
start of 1970, universal time. -/

namespace GnssMonitor

structure Date where
  year : Nat
  month : Nat
  day : Nat
  deriving DecidableEq, Repr

namespace Date

def isLeap (year : Nat) : Bool := year % 4 == 0 && (year % 100 != 0 || year % 400 == 0)

def monthLengths (leap : Bool) : List Nat :=
  [31, if leap then 29 else 28, 31, 30, 31, 30, 31, 31, 30, 31, 30, 31]

def lastYear : Nat := 9999

def isValid (d : Date) : Bool :=
  1 ≤ d.year && d.year ≤ lastYear && 1 ≤ d.month && 1 ≤ d.day &&
    match (monthLengths (isLeap d.year))[d.month - 1]? with
    | some n => d.day ≤ n
    | none => false

/-- Days from the first of January of year 1 to that of the year. -/
def daysBefore (year : Nat) : Nat :=
  let y := year - 1
  y * 365 + y / 4 - y / 100 + y / 400

/-- Days from the first of January of year 1. -/
def number (d : Date) : Nat :=
  let before := (monthLengths (isLeap d.year)).take (d.month - 1)
  daysBefore d.year + before.foldl (· + ·) 0 + (d.day - 1)

/-- Month and day of the day of a year, both from one, given the lengths of the months. -/
def monthAndDay (month : Nat) : List Nat → Nat → Nat × Nat
  | [], n => (month, n + 1)
  | length :: more, n =>
    if n < length then (month, n + 1) else monthAndDay (month + 1) more (n - length)

/-- The date so many days after the first of January of year 1: whole cycles of 400, 100, 4 and
1 years are taken out in turn. The last day of a cycle belongs to its last year. -/
def ofNumber (n : Nat) : Date :=
  let n400 := n / 146097
  let n := n % 146097
  let n100 := min (n / 36524) 3
  let n := n - n100 * 36524
  let n4 := n / 1461
  let n := n % 1461
  let n1 := min (n / 365) 3
  let n := n - n1 * 365
  let year := 400 * n400 + 100 * n100 + 4 * n4 + n1 + 1
  let (month, day) := monthAndDay 1 (monthLengths (isLeap year)) n
  ⟨year, month, day⟩

/-- Day of the week of a numbered day, Monday zero. -/
def weekday (n : Nat) : Nat := n % 7

/-- The Monday of the week that holds the year's first Thursday. -/
def firstMonday (year : Nat) : Int :=
  let n := daysBefore year
  let w := weekday n
  if 3 < w then (n : Int) - w + 7 else (n : Int) - w

/-- A year has a week 53 when it starts on a Thursday, or on a Wednesday and is leap. -/
def hasWeek53 (year : Nat) : Bool :=
  let w := weekday (daysBefore year)
  w == 3 || (w == 2 && isLeap year)

/-- The date of a day of a numbered week, both from one. -/
def ofWeek? (year week day : Nat) : Option Date :=
  if 1 ≤ year ∧ year ≤ lastYear ∧ 1 ≤ day ∧ day ≤ 7 ∧ 1 ≤ week ∧
      (week ≤ 52 ∨ (week = 53 ∧ hasWeek53 year)) then
    let d := ofNumber (firstMonday year + ((week - 1) * 7 + (day - 1) : Nat)).toNat
    if d.isValid then some d else none
  else none

end Date

structure TimeOfDay where
  hour : Nat
  minute : Nat
  second : Nat
  micro : Nat
  deriving DecidableEq, Repr

namespace TimeOfDay

def isValid (t : TimeOfDay) : Bool :=
  t.hour < 24 && t.minute < 60 && t.second < 60 && t.micro < 1000000

def seconds (t : TimeOfDay) : Nat := (t.hour * 60 + t.minute) * 60 + t.second

end TimeOfDay

/-- Microseconds from the start of 1970. -/
structure Instant where
  micros : Int
  deriving DecidableEq, Repr

namespace Instant

/-- The first of January 1970, counted from that of year 1. -/
def epochDay : Nat := 719162

def microsPerDay : Int := 86400000000

def ofCivil (d : Date) (t : TimeOfDay) : Instant :=
  ⟨((d.number : Int) - epochDay) * microsPerDay + (t.seconds * 1000000 + t.micro : Nat)⟩

/-- Seconds from the start of 1970, rounded once. -/
def toSeconds (i : Instant) : Binary64 :=
  Binary64.ofRatio (decide (i.micros < 0)) i.micros.natAbs 1000000

/-- The whole microsecond nearest to a number of seconds: the part after the point is taken in
microseconds first and then rounded, a half to the even one. -/
def ofSeconds (x : Binary64) : Except Binary64.NotFinite Instant := do
  let whole ← x.trunc
  let part ← ((x - Binary64.ofInt whole) * Binary64.ofInt 1000000).round
  return ⟨whole * 1000000 + part⟩

def padded (width n : Nat) : String :=
  let cs := Binary64.digitsOf n
  String.ofList (List.replicate (width - cs.length) '0' ++ cs)

/-- Date and time in universal time; the fraction is left out when it is zero. -/
def text (i : Instant) : String :=
  let day := Int.fdiv i.micros microsPerDay
  let rest := (Int.fmod i.micros microsPerDay).toNat
  let d := Date.ofNumber (day + epochDay).toNat
  let s := rest / 1000000
  let micro := rest % 1000000
  s!"{padded 4 d.year}-{padded 2 d.month}-{padded 2 d.day}T" ++
    s!"{padded 2 (s / 3600)}:{padded 2 (s / 60 % 60)}:{padded 2 (s % 60)}" ++
    (if micro = 0 then "" else "." ++ padded 6 micro) ++ "+00:00"

end Instant
end GnssMonitor
