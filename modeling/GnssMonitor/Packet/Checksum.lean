import GnssMonitor.Packet

/-! The two checksums: the exclusive or of a sentence's bytes and the 15-bit sum of a frame's. -/

namespace GnssMonitor.Checksum

def xor (bs : Bytes) : UInt8 := bs.foldl (· ^^^ ·) 0

def sum (bs : Bytes) : Nat := (bs.foldl (fun n b => n + b.toNat) 0) % 0x8000

def isBlank (b : UInt8) : Bool := b == 0x20 || (0x09 ≤ b && b ≤ 0x0d)

def trimBlanks (bs : Bytes) : Bytes :=
  ((bs.dropWhile isBlank).reverse.dropWhile isBlank).reverse

def hexDigits? (bs : Bytes) : Option Nat :=
  if bs.isEmpty then none
  else bs.foldl (fun n b => do
    return (← n) * 16 + (← Bytes.hexValue? (Char.ofNat b.toNat))) (some 0)

/-- The hexadecimal number written in a short field, which may hold blanks at its ends and
a sign. -/
def readField (bs : Bytes) : Option Int :=
  match trimBlanks bs with
  | 0x2b :: digits => (hexDigits? digits).map Int.ofNat
  | 0x2d :: digits => (hexDigits? digits).map fun n => -(n : Int)
  | digits => (hexDigits? digits).map Int.ofNat

/-- The bytes before the last star and those after it. -/
def splitLastStar (bs : Bytes) : Option (Bytes × Bytes) :=
  let back := bs.reverse
  match back.dropWhile (· != star) with
  | [] => none
  | _ :: before => some (before.reverse, (back.takeWhile (· != star)).reverse)

/-- A sentence without a star carries no checksum. Else the two bytes after the last star hold
that of the bytes between the leader and the star. -/
def isGenuine (sentence : Bytes) : Bool :=
  match splitLastStar sentence with
  | none => true
  | some (before, after) => readField (after.take 2) == some ((xor (before.drop 1)).toNat : Int)

end GnssMonitor.Checksum
