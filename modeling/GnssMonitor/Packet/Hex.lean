import GnssMonitor.Bytes
import GnssMonitor.Text.Ascii
import GnssMonitor.Text.Blank

/-! Bytes typed as hexadecimal digits, with white space wherever the operator likes. -/

namespace GnssMonitor

inductive HexFault
  | empty
  | odd
  | notHex (position : Nat)
  deriving DecidableEq, Repr

def HexFault.message : HexFault → String
  | empty => "empty hex string"
  | odd => "odd number of hex digits"
  | notHex p => s!"non-hexadecimal number found in fromhex() arg at position {p}"

namespace Hex

/-- Digits in pairs; `position` is that of the first one. -/
def pairs (position : Nat) : List Char → Except HexFault Bytes
  | [] => .ok []
  | [_] => .error .odd
  | a :: b :: rest =>
    match Bytes.hexValue? a, Bytes.hexValue? b with
    | some high, some low => (pairs (position + 2) rest).map (UInt8.ofNat (high * 16 + low) :: ·)
    | none, _ => .error (.notHex position)
    | some _, none => .error (.notHex (position + 1))

/-- A character beyond ASCII is complained of before any other. -/
def digits (cs : List Char) : Except HexFault Bytes :=
  if cs.isEmpty then .error .empty
  else if cs.length % 2 = 1 then .error .odd
  else
    let plain := cs.takeWhile Text.isAscii
    if plain.length < cs.length then .error (.notHex plain.length) else pairs 0 cs

def read (text : String) : Except HexFault Bytes :=
  digits (text.toList.filter (!Text.isBlank ·))

end Hex
end GnssMonitor
