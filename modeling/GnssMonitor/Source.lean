import GnssMonitor.Text.Number

/-! Where packets come from: a serial device, or a daemon that relays those of its devices. -/

namespace GnssMonitor

inductive Source
  | serial (path : String)
  | relay (host port : String) (device : Option String)
  deriving DecidableEq, Repr

namespace Source

def defaultHost : String := "localhost"

def defaultPort : String := "2947"

def isColon (c : Char) : Bool := c == ':'

/-- The text before the first colon and the text after it. -/
def splitColon (cs : List Char) : List Char × List Char :=
  (cs.takeWhile (!isColon ·), (cs.dropWhile (!isColon ·)).drop 1)

def orDefault (standard : String) (cs : List Char) : String :=
  if cs.isEmpty then standard else String.ofList cs

def isClosing (c : Char) : Bool := c == ']'

/-- A host in brackets, which may hold colons, and what comes after the colons behind it. An
open bracket that is never closed takes all but the last character for the host, and then the
whole text for the rest. -/
def splitBracketed (cs : List Char) : List Char × List Char :=
  if cs.any isClosing then
    let inner := cs.drop 1
    (inner.takeWhile (!isClosing ·), ((inner.dropWhile (!isClosing ·)).drop 1).dropWhile isColon)
  else (cs.dropLast.drop 1, cs.dropWhile isColon)

/-- Reads `host:port:device`, each part optional, or the path of a device. -/
def read (cs : List Char) : Source :=
  if "/dev".toList.isPrefixOf cs then .serial (String.ofList cs)
  else
    let (host, rest) := if cs.head? = some '[' then splitBracketed cs else splitColon cs
    let (port, device) := splitColon rest
    .relay (orDefault defaultHost host) (orDefault defaultPort port)
      (if device.isEmpty then none else some (String.ofList device))

def ofArgument : Option String → Source
  | none => .relay defaultHost defaultPort none
  | some arg => read arg.toList

def isSerial : Source → Bool
  | serial _ => true
  | relay .. => false

def path : Source → String
  | serial p => p
  | relay host port _ => s!"tcp://{host}:{port}"

def device : Source → Option String
  | serial p => some p
  | relay _ _ d => d

end Source
end GnssMonitor
