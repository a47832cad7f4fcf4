import GnssMonitor.Packet.Framer
import GnssMonitor.Text.Ascii

/-! Packets to send: sentences with leader, checksum and line ending, and SiRF frames. -/

namespace GnssMonitor

/-- A number that does not fit the field of a binary message. -/
inductive FieldOverflow
  | byte
  | word16
  | word32
  | machine
  deriving DecidableEq, Repr

def FieldOverflow.message : FieldOverflow → String
  | byte => "ubyte format requires 0 <= number <= 255"
  | word16 => "'H' format requires 0 <= number <= 65535"
  | word32 => "'I' format requires 0 <= number <= 4294967295"
  | machine => "argument out of range"

namespace Encoding

def isLineEnd (b : UInt8) : Bool := b == carriageReturn || b == lineFeed

def trimLineEnd (bs : Bytes) : Bytes := (bs.reverse.dropWhile isLineEnd).reverse

def upperHexPair (b : UInt8) : Bytes :=
  [Bytes.hexUpper (b.toNat / 16), Bytes.hexUpper (b.toNat % 16)].map Text.byteOf

def startsWithLeader : Bytes → Bool
  | b :: _ => isLeader b
  | [] => false

/-- Adds what the body lacks of leader and checksum, and ends it with CR LF. -/
def nmea (body : Bytes) : Bytes :=
  let body := trimLineEnd body
  let body := if startsWithLeader body then body else 0x24 :: body
  let body := if star ∈ body then body
    else body ++ star :: upperHexPair (Checksum.xor (body.drop 1))
  body ++ [carriageReturn, lineFeed]

def nmeaText (body : String) : Bytes := nmea (Bytes.ofString body)

/-- A message body between leader, length, checksum and trailer. -/
def sirf (payload : Bytes) : Except FieldOverflow Bytes :=
  if payload.length < 0x10000 then
    .ok (Framing.sirfLeader ++ Bytes.ofWord16 payload.length ++ payload ++
      Bytes.ofWord16 (Checksum.sum payload) ++ Framing.sirfTrailer)
  else .error .word16

def byteField (n : Int) : Except FieldOverflow Bytes :=
  if 0 ≤ n ∧ n < 256 then .ok [UInt8.ofNat n.toNat]
  else if n < -0x8000000000000000 ∨ 0x8000000000000000 ≤ n then .error .machine else .error .byte

/-- A number beyond what an unsigned machine word of 64 bits holds is told apart from one that
is only beyond the field. -/
def wordField (n : Int) : Except FieldOverflow Bytes :=
  if 0 ≤ n ∧ n < 0x10000 then .ok (Bytes.ofWord16 n.toNat)
  else if n < 0 ∨ 0x10000000000000000 ≤ n then .error .machine else .error .word16

def longField (n : Int) : Except FieldOverflow Bytes :=
  if 0 ≤ n ∧ n < 0x100000000 then .ok (Bytes.ofWord32 n.toNat)
  else if n < 0 ∨ 0x10000000000000000 ≤ n then .error .machine else .error .word32

end Encoding
end GnssMonitor
