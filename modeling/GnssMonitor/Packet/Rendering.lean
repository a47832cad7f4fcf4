import GnssMonitor.Packet

/-! Packets as text that is safe on a terminal and in a log line. A bound plays the part of the
reader's buffer: the text stays below it, and it is cut between the outputs of two bytes. -/

namespace GnssMonitor.Rendering

/-- Room for the hexadecimal text of the longest packet. -/
def defaultBound : Int := packetLimit * 2 + 1

def escapeWidth : Nat := 4

def isPrintable (b : UInt8) : Bool := 0x20 ≤ b && b < 0x7f

def isSpace (b : UInt8) : Bool := b == 0x20 || (0x09 ≤ b && b ≤ 0x0d)

def escape (b : UInt8) : List Char := '\\' :: 'x' :: Bytes.hexPair b

def plain (b : UInt8) : List Char := [Char.ofNat b.toNat]

/-- The pieces that come before the first one without room; `room` is what a piece needs below
the bound beside what is used already. -/
def cut (room : List Char → Nat) (bound : Int) (used : Nat) : List (List Char) → List Char
  | [] => []
  | p :: rest =>
    if (used + room p : Nat) < bound then p ++ cut room bound (used + p.length) rest else []

/-- The output of each byte: a line ending passes only at the end. -/
def printablePieces : Bytes → List (List Char)
  | [] => []
  | b :: rest =>
    (if isPrintable b || (b == lineFeed && rest.isEmpty) ||
        (b == carriageReturn && rest.length ≤ 1) then plain b else escape b)
      :: printablePieces rest

/-- Every piece needs the room of an escape. -/
def printable (bs : Bytes) (bound : Int) : List Char :=
  cut (fun _ => escapeWidth) bound 0 (printablePieces bs)

/-- The output of each byte of a packet of printable bytes and white space; a packet of a
textual kind loses its line ending. -/
def conditionalPieces (textual : Bool) : Bytes → List (List Char)
  | [] => []
  | b :: rest =>
    (if isPrintable b then plain b
      else if textual && ((b == lineFeed && rest.isEmpty) ||
        (b == carriageReturn && rest == [lineFeed])) then []
      else escape b)
      :: conditionalPieces textual rest

/-- The first `count` bytes; a negative count leaves out bytes at the end. -/
def takeSigned (count : Int) (bs : Bytes) : Bytes :=
  if 0 ≤ count then bs.take count.toNat else bs.take (bs.length - (-count).toNat)

/-- Text as it is, anything else as hexadecimal digits. -/
def conditional (bs : Bytes) (textual : Bool) (bound : Int) : List Char :=
  if bs.all fun b => isPrintable b || isSpace b then
    cut (fun p => max 1 p.length) bound 0 (conditionalPieces textual bs)
  else Bytes.toHex (takeSigned (min (bs.length : Int) ((bound - 1).fdiv 2)) bs)

/-- A packet as the packet window shows it: its length, its text and a newline. -/
def packetLine (bs : Bytes) (textual : Bool) (bound : Int) : String :=
  s!"({bs.length}) {String.ofList (conditional bs textual bound)}\n"

end GnssMonitor.Rendering
