import GnssMonitor.Binary64

/-! Decimal text of floating-point numbers: a fixed number of places, rounded exactly,
or the fewest digits that read back as the same number. -/

namespace GnssMonitor.Binary64

def digitsOf (n : Nat) : List Char := Nat.toDigits 10 n

/-- The greatest `e` with `10 ^ e ≤ num / den`. -/
def decimalExponentOf (num den : Nat) : Int :=
  settleExponent 10 num den (((digitsOf num).length : Int) - (digitsOf den).length)

def signText (negative : Bool) : String := if negative then "-" else ""

/-- `places` digits after the point, the exact value rounded half to even. -/
def fixed (places : Nat) : Binary64 → String
  | nan => "nan"
  | infinite n => signText n ++ "inf"
  | finite n m e =>
    let (num, den) := scale 2 m 1 e
    let cs := digitsOf (roundHalfEven (num * Nat.pow 10 places) den)
    let cs := List.replicate (places + 1 - cs.length) '0' ++ cs
    let whole := cs.take (cs.length - places)
    signText n ++ String.ofList whole ++ "." ++ String.ofList (cs.drop whole.length)

/-- The reals that round to `m * 2 ^ e`, as bounds over `4 * 2 ^ (-e)`; the ends belong to it
when the significand is even. -/
structure Span where
  low : Nat
  high : Nat
  closed : Bool

/-- Below a power of two the neighbour is half as far away. -/
def spanOf (m : Nat) (e : Int) : Span where
  low := if m = leastNormal ∧ leastExponent < e then 4 * m - 1 else 4 * m - 2
  high := 4 * m + 2
  closed := m % 2 = 0

/-- Whether `num / den`, counted in quarters of the last place, lies in the span. -/
def Span.holds (s : Span) (num den : Nat) : Bool :=
  if s.closed then s.low * den ≤ num && num ≤ s.high * den
  else s.low * den < num && num < s.high * den

/-- The point of the grid of `count` significant digits that reads back as `m * 2 ^ e` and is
nearest to it, given the exponent of the leading digit. A tie goes to the even digit. -/
def pointOn (m : Nat) (e top : Int) (count : Nat) : Option (Nat × Int) :=
  let unit := top - count + 1
  -- the value in units of the grid is `a / b`
  let (num, den) := scale 2 m 1 e
  let (a, b) := scale 10 num den (-unit)
  let below := a / b
  let span := spanOf m e
  -- a grid point `d` counted in quarters of the last place: `d * 4 * 10 ^ unit / 2 ^ e`
  let holds (d : Nat) : Bool :=
    let (p, q) := scale 10 (4 * d) 1 unit
    let (p, q) := scale 2 p q (-e)
    span.holds p q
  match holds below, holds (below + 1) with
  | true, true =>
    let rest := a % b
    if 2 * rest < b ∨ (2 * rest = b ∧ below % 2 = 0) then some (below, unit)
    else some (below + 1, unit)
  | true, false => some (below, unit)
  | false, true => some (below + 1, unit)
  | false, false => none

/-- The fewest digits that read back as `m * 2 ^ e`, at most `fuel` of them beyond `count`. -/
def fewestFrom (m : Nat) (e top : Int) (count : Nat) : Nat → Nat × Int
  | 0 => (m, e)
  | fuel + 1 =>
    match pointOn m e top count with
    | some p => p
    | none => fewestFrom m e top (count + 1) fuel

/-- Seventeen digits always suffice. -/
def fewestDigits (m : Nat) (e : Int) : Nat × Int :=
  let (num, den) := scale 2 m 1 e
  fewestFrom m e (decimalExponentOf num den) 1 17

/-- How numbers are written: positional while the leading digit stands within
`lowest ≤ exponent < highest`, else with an exponent of at least two digits. -/
structure DecimalStyle where
  lowest : Int
  highest : Int

/-- Positional from one ten-thousandth up to sixteen digits before the point. -/
def shortestStyle : DecimalStyle := ⟨-4, 16⟩

def trimZeros (cs : List Char) : List Char :=
  (cs.reverse.dropWhile (· == '0')).reverse

def positional (cs : List Char) (top : Int) : List Char :=
  if top < 0 then "0.".toList ++ List.replicate (-top - 1).toNat '0' ++ cs
  else
    let whole := cs.take (top.toNat + 1)
    let rest := cs.drop (top.toNat + 1)
    let whole := whole ++ List.replicate (top.toNat + 1 - whole.length) '0'
    whole ++ '.' :: if rest.isEmpty then ['0'] else rest

def scientific (cs : List Char) (top : Int) : List Char :=
  let exponent := digitsOf top.natAbs
  let exponent := List.replicate (2 - exponent.length) '0' ++ exponent
  let mantissa := match cs with
    | [] => []
    | [c] => [c]
    | c :: rest => c :: '.' :: rest
  mantissa ++ 'e' :: (if top < 0 then '-' else '+') :: exponent

/-- The fewest digits that read back as the number. -/
def shortest : Binary64 → String
  | nan => "nan"
  | infinite n => signText n ++ "inf"
  | finite n m e =>
    if m = 0 then signText n ++ "0.0"
    else
      let (d, unit) := fewestDigits m e
      let cs := digitsOf d
      let top := (cs.length : Int) - 1 + unit
      let cs := trimZeros cs
      let body := if shortestStyle.lowest ≤ top ∧ top < shortestStyle.highest
        then positional cs top else scientific cs top
      signText n ++ String.ofList body

end GnssMonitor.Binary64
