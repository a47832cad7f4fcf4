/-! Floating-point numbers of 64 bits as a significand times a power of two.
Every operation is the exact rational result rounded once, to nearest with ties to even. -/

namespace GnssMonitor

/-- The value of `finite n m e` is `m * 2 ^ e`, negated when `n` holds. The two zeros differ. -/
inductive Binary64
  | nan
  | infinite (negative : Bool)
  | finite (negative : Bool) (significand : Nat) (exponent : Int)
  deriving DecidableEq, Repr, Inhabited

namespace Binary64

/-- Why a number has no integer part. -/
inductive NotFinite
  | nan
  | infinite
  deriving DecidableEq, Repr

def leastExponent : Int := -1074

def greatestExponent : Int := 971

/-- The least significand of a number that is not subnormal; all are below its double. -/
def leastNormal : Nat := 0x10000000000000

def signedZero (negative : Bool) : Binary64 := finite negative 0 leastExponent

def zero : Binary64 := signedZero false

/-- The quotient rounded to the nearest integer, a half to the even neighbour. -/
def roundHalfEven (num den : Nat) : Nat :=
  let q := num / den
  let r := num % den
  if 2 * r < den then q else if den < 2 * r then q + 1 else q + q % 2

/-- Numerator and denominator of `num / den * base ^ e`. -/
def scale (base num den : Nat) (e : Int) : Nat × Nat :=
  if 0 ≤ e then (num * base.pow e.toNat, den) else (num, den * base.pow (-e).toNat)

/-- Turns an exponent that is right or one too large into the greatest `e` with
`base ^ e ≤ num / den`. -/
def settleExponent (base num den : Nat) (guess : Int) : Int :=
  let (n, d) := scale base num den (-guess)
  if d ≤ n then guess else guess - 1

/-- The greatest `e` with `2 ^ e ≤ num / den`. -/
def exponentOf (num den : Nat) : Int :=
  settleExponent 2 num den ((num.log2 : Int) - den.log2)

/-- The number nearest to `num / den`, ties to an even significand; infinite beyond the range. -/
def ofRatio (negative : Bool) (num den : Nat) : Binary64 :=
  if num = 0 then signedZero negative
  else
    let e := max (exponentOf num den - 52) leastExponent
    let (n, d) := scale 2 num den (-e)
    let m := roundHalfEven n d
    let (m, e) := if m = 2 * leastNormal then (leastNormal, e + 1) else (m, e)
    if greatestExponent < e then infinite negative else finite negative m e

/-- `s * 2 ^ e`, rounded. -/
def ofDyadic (s e : Int) : Binary64 :=
  let (n, d) := scale 2 s.natAbs 1 e
  ofRatio (decide (s < 0)) n d

/-- `digits * 10 ^ e`, rounded. Magnitudes far beyond the range are settled by their length,
of which that of the binary form gives bounds: `10 ^ 3 < 2 ^ 10` and `2 ^ 3 < 10`. -/
def ofDecimal (negative : Bool) (digits : Nat) (e : Int) : Binary64 :=
  if digits = 0 then signedZero negative
  else
    let bits := digits.log2
    if 400 < ((bits / 10 * 3 : Nat) : Int) + e then infinite negative
    else if ((bits / 3 + 1 : Nat) : Int) + e < -400 then signedZero negative
    else
      let (n, d) := scale 10 digits 1 e
      ofRatio negative n d

def ofInt (i : Int) : Binary64 := ofDyadic i 0

/-- The integer as a number, or nothing when it is beyond the range. -/
def ofInt? (i : Int) : Option Binary64 :=
  match ofInt i with
  | infinite _ => none
  | x => some x

def signed (negative : Bool) (m : Nat) : Int := if negative then -(m : Int) else m

def neg : Binary64 → Binary64
  | nan => nan
  | infinite n => infinite (!n)
  | finite n m e => finite (!n) m e

def add : Binary64 → Binary64 → Binary64
  | nan, _ | _, nan => nan
  | infinite a, infinite b => if a = b then infinite a else nan
  | infinite a, _ => infinite a
  | _, infinite b => infinite b
  | finite n m e, finite n' m' e' =>
    let low := min e e'
    let sum := signed n (m <<< (e - low).toNat) + signed n' (m' <<< (e' - low).toNat)
    if sum = 0 then signedZero (n && n') else ofDyadic sum low

def sub (x y : Binary64) : Binary64 := add x (neg y)

def mul : Binary64 → Binary64 → Binary64
  | nan, _ | _, nan => nan
  | infinite a, infinite b => infinite (a != b)
  | infinite a, finite n m _ | finite n m _, infinite a =>
    if m = 0 then nan else infinite (a != n)
  | finite n m e, finite n' m' e' =>
    let (num, den) := scale 2 (m * m') 1 (e + e')
    ofRatio (n != n') num den

def div : Binary64 → Binary64 → Binary64
  | nan, _ | _, nan => nan
  | infinite _, infinite _ => nan
  | infinite a, finite n _ _ => infinite (a != n)
  | finite n _ _, infinite a => signedZero (n != a)
  | finite n m e, finite n' m' e' =>
    if m' = 0 then if m = 0 then nan else infinite (n != n')
    else
      let (num, den) := scale 2 m m' (e - e')
      ofRatio (n != n') num den

/-- Order of the values. Nothing is below or above `nan`, and the two zeros are level. -/
def lt : Binary64 → Binary64 → Bool
  | nan, _ | _, nan => false
  | infinite a, infinite b => a && !b
  | infinite a, _ => a
  | _, infinite b => !b
  | finite n m e, finite n' m' e' =>
    let low := min e e'
    decide (signed n (m <<< (e - low).toNat) < signed n' (m' <<< (e' - low).toNat))

def le (x y : Binary64) : Bool := !(x == nan) && !(y == nan) && !lt y x

def isFinite : Binary64 → Bool
  | finite _ _ _ => true
  | nan | infinite _ => false

def isZero : Binary64 → Bool
  | finite _ 0 _ => true
  | _ => false

/-- The integer part, cut toward zero. -/
def trunc : Binary64 → Except NotFinite Int
  | nan => .error .nan
  | infinite _ => .error .infinite
  | finite n m e =>
    let (num, den) := scale 2 m 1 e
    .ok (signed n (num / den))

/-- The nearest integer, a half to the even one. -/
def round : Binary64 → Except NotFinite Int
  | nan => .error .nan
  | infinite _ => .error .infinite
  | finite n m e =>
    let (num, den) := scale 2 m 1 e
    .ok (signed n (roundHalfEven num den))

def signBit : Nat := 0x8000000000000000

/-- The interchange word: sign, biased exponent, trailing significand. -/
def toWord : Binary64 → Nat
  | nan => 0x7ff8000000000000
  | infinite n => (if n then signBit else 0) + 0x7ff0000000000000
  | finite n m e =>
    (if n then signBit else 0) +
      if m < leastNormal then m
      else (e - leastExponent + 1).toNat * leastNormal + (m - leastNormal)

instance : Add Binary64 := ⟨add⟩
instance : Sub Binary64 := ⟨sub⟩
instance : Mul Binary64 := ⟨mul⟩
instance : Div Binary64 := ⟨div⟩
instance : Neg Binary64 := ⟨neg⟩

end Binary64
end GnssMonitor
