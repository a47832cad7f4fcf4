import GnssMonitor.Act

/-! The two endpoints of a session: the port of a serial line and the socket of a relay. -/

namespace GnssMonitor

structure LineSettings where
  baud : Int := 9600
  wordLength : Int := 8
  parity : String := "N"
  stopBits : Int := 1
  deriving DecidableEq, Repr

/-- Speed and framing in one word, as the prompt shows them. -/
def LineSettings.text (l : LineSettings) : String :=
  s!"{l.baud} {l.wordLength}{l.parity}{l.stopBits}"

inductive Medium
  | port
  | socket
  deriving DecidableEq, Repr

/-- What becomes of written bytes. Only a port takes them short of one, and only there something is
flushed behind them. -/
inductive Delivery
  | full
  | short
  /-- The bytes go out, but flushing them fails. -/
  | unflushed
  | failing
  deriving DecidableEq, Repr

/-- What comes of waiting for pending output to leave a port, apart from a write. -/
inductive Drainage
  | full
  | failing (reason : String)
  deriving DecidableEq, Repr

/-- What is there to be read: bytes, or the end of them. -/
inductive Arrival
  | bytes (bs : Bytes)
  | ending
  deriving DecidableEq, Repr

structure Endpoint where
  medium : Medium
  line : LineSettings := {}
  refused : List Int := []
  delivery : Delivery := .full
  drainage : Drainage := .full
  queue : List Arrival := []
  readFails : Bool := false
  deriving DecidableEq, Repr

/-- What a session does to its endpoint. An observed write is announced before it is made. -/
inductive LineEffect
  | observed (bs : Bytes)
  | write (bs : Bytes)
  | flush
  | baud (n : Int)
  | close
  deriving DecidableEq, Repr

namespace Endpoint

/-- The most that one read returns. -/
def readSize : Nat := 4096

/-- A port hands on what has come in as one stream, up to `room` bytes of it. -/
def gather (room : Nat) : List Arrival → Bytes × List Arrival
  | .bytes bs :: rest =>
    if bs.length ≤ room then
      let (more, left) := gather (room - bs.length) rest
      (bs ++ more, left)
    else (bs.take room, .bytes (bs.drop room) :: rest)
  | queue => ([], queue)

/-- One read: the bytes, none at the end of the stream, or nothing when it fails. An idle port
has nothing to read; an idle socket is at its end. -/
def receive (e : Endpoint) : Option Bytes × Endpoint :=
  if e.readFails then (none, { e with readFails := false })
  else match e.medium with
  | .socket =>
    match e.queue with
    | [] => (some [], e)
    | .ending :: rest => (some [], { e with queue := rest })
    | .bytes bs :: rest =>
      let left := bs.drop readSize
      let queue := if left.isEmpty then rest else .bytes left :: rest
      (some (bs.take readSize), { e with queue })
  | .port =>
    match gather readSize e.queue with
    | ([], .ending :: rest) => (some [], { e with queue := rest })
    | ([], rest) => (none, { e with queue := rest })
    | (bs, rest) => (some bs, { e with queue := rest })

def add (e : Endpoint) (a : Arrival) : Endpoint := { e with queue := e.queue ++ [a] }

end Endpoint
end GnssMonitor
