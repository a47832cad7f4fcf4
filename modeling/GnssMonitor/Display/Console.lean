import GnssMonitor.Act

/-! The headless display: lines on the standard streams, commands from the standard input. The
first key of a command is read raw, the rest of the line with the terminal's own editing. -/

namespace GnssMonitor

/-- How a terminal hands on what is typed: by the line or by the key, and echoed or not. -/
structure TerminalMode where
  canonical : Bool := true
  echo : Bool := true
  /-- How many keys a read waits for. -/
  least : Nat := 4
  deriving DecidableEq, Repr

/-- The mode for single keys. -/
def TerminalMode.raw (m : TerminalMode) : TerminalMode :=
  { m with canonical := false, echo := false, least := 1 }

inductive ConsoleEffect
  | out (text : String)
  | err (text : String)
  | sleep (seconds : Binary64)
  /-- Input not read yet is thrown away. -/
  | discardInput
  | setMode (m : TerminalMode)
  deriving DecidableEq, Repr

structure Console where
  /-- The mode of the terminal on the standard input, if there is a terminal. -/
  terminal : Option TerminalMode := none
  /-- How long the answer to a command stands before packets go on. -/
  pause : Binary64
  /-- The mode found at the start. -/
  cooked : Option TerminalMode := none
  /-- The mode while waiting for a key. -/
  rare : Option TerminalMode := none
  deriving DecidableEq, Repr

namespace Console

abbrev Do := Act ConsoleEffect Console

/-- The display scrolls: it has all the room one can ask for. -/
def unlimited : Nat := 0x40000000

/-- How long an answer stands, in seconds. -/
def standardPause : Binary64 := Binary64.ofInt 2

def out (text : String) : Do Unit := Act.emit (.out text)

def setMode (m : TerminalMode) : Do Unit := do
  Act.emit (.setMode m)
  modify fun c => { c with terminal := some m }

/-- Sets one of the two modes, if they are known. -/
def setKnown (m : Option TerminalMode) : Do Unit :=
  match m with
  | some m => setMode m
  | none => pure ()

def start (prompt : String) : Do Unit := do
  out s!"gpsmon: {prompt}\n"
  match (← get).terminal with
  | none => pure ()
  | some m =>
    modify fun c => { c with cooked := some m, rare := some m.raw }
    Act.emit .discardInput
    setMode m.raw

def stop : Do Unit := do setKnown (← get).cooked

def append (text : String) : Do Unit := out text

def complain (text : String) : Do Unit := Act.emit (.err s!"{text}\n")

/-- The text up to its first line ending, that included. -/
def firstLine (text : String) : String :=
  let cs := text.toList
  String.ofList (cs.takeWhile (· != '\n') ++ (cs.dropWhile (· != '\n')).take 1)

/-- Reads a command, given the key that waits raw and what is typed after it. -/
def read (prompt : String) (key : Option UInt8) (rest : String) : Do String := do
  match key with
  | none => throw .inputClosed
  | some key =>
    if (← get).cooked.isSome then Act.emit .discardInput
    setKnown (← get).cooked
    let first := String.ofList (Text.decodeAsciiLossy [key])
    out s!"gpsmon: {prompt}> {first}"
    return if first = "\n" then first else first ++ firstLine rest

def resume : Do Unit := do
  Act.emit (.sleep (← get).pause)
  setKnown (← get).rare

end Console
end GnssMonitor
