import GnssMonitor.Bytes

/-! ASCII text as bytes and back. What does not fit is refused or replaced, as the caller asks. -/

namespace GnssMonitor.Text

/-- The first run of characters beyond ASCII, by position. -/
structure NotAscii where
  first : Nat
  last : Nat
  char : Char
  deriving DecidableEq, Repr

def isAscii (c : Char) : Bool := c.toNat < 0x80

def byteOf (c : Char) : UInt8 := UInt8.ofNat c.toNat

def encodeAscii (s : String) : Except NotAscii Bytes :=
  let cs := s.toList
  match cs.dropWhile isAscii with
  | [] => .ok (cs.map byteOf)
  | c :: rest =>
    let first := (cs.takeWhile isAscii).length
    .error ⟨first, first + (rest.takeWhile (!isAscii ·)).length, c⟩

/-- A question mark stands for each character beyond ASCII. -/
def encodeAsciiLossy (s : String) : Bytes :=
  s.toList.map fun c => byteOf (if isAscii c then c else '?')

def replacement : Char := Char.ofNat 0xfffd

/-- The replacement character stands for each byte beyond ASCII. -/
def decodeAsciiLossy (bs : Bytes) : List Char :=
  bs.map fun b => if b < 0x80 then Char.ofNat b.toNat else replacement

def paddedHex (width n : Nat) : List Char :=
  let cs := Nat.toDigits 16 n
  List.replicate (width - cs.length) '0' ++ cs

/-- A backslash escape of two, four or eight digits, the fewest that hold the code point. -/
def escapeCode (n : Nat) : List Char :=
  if n < 0x100 then '\\' :: 'x' :: paddedHex 2 n
  else if n < 0x10000 then '\\' :: 'u' :: paddedHex 4 n
  else '\\' :: 'U' :: paddedHex 8 n

def NotAscii.message (e : NotAscii) : String :=
  let subject := if e.first = e.last
    then s!"character '{String.ofList (escapeCode e.char.toNat)}' in position {e.first}"
    else s!"characters in position {e.first}-{e.last}"
  s!"'ascii' codec can't encode {subject}: ordinal not in range(128)"

end GnssMonitor.Text
