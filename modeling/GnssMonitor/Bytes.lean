/-! Byte strings as lists, and their hexadecimal text. -/

namespace GnssMonitor

abbrev Bytes := List UInt8

namespace Bytes

/-- The character of a byte has its number. -/
theorem toNat_char (b : UInt8) : (Char.ofNat b.toNat).toNat = b.toNat := by
  have small := b.toNat_lt
  have valid : b.toNat.isValidChar := .inl (by omega)
  rw [Char.ofNat, dif_pos valid]
  rfl

def ofString (s : String) : Bytes := s.toUTF8.toList

/-- Two bytes, the more significant first. -/
def ofWord16 (n : Nat) : Bytes := [UInt8.ofNat (n / 256), UInt8.ofNat n]

/-- Four bytes, the most significant first. -/
def ofWord32 (n : Nat) : Bytes := ofWord16 (n / 65536) ++ ofWord16 n

def hexDigit (n : Nat) : Char := Char.ofNat (if n < 10 then 0x30 + n else 0x57 + n)

def hexUpper (n : Nat) : Char := Char.ofNat (if n < 10 then 0x30 + n else 0x37 + n)

/-- The value of a hexadecimal digit of either case. -/
def hexValue? (c : Char) : Option Nat :=
  let n := c.toNat
  if 0x30 ≤ n ∧ n ≤ 0x39 then some (n - 0x30)
  else if 0x41 ≤ n ∧ n ≤ 0x46 then some (n - 0x37)
  else if 0x61 ≤ n ∧ n ≤ 0x66 then some (n - 0x57)
  else none

def hexPair (b : UInt8) : List Char := [hexDigit (b.toNat / 16), hexDigit (b.toNat % 16)]

/-- Two lower-case digits a byte. -/
def toHex (bs : Bytes) : List Char := bs.flatMap hexPair

end Bytes
end GnssMonitor
