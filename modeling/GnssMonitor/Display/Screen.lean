import GnssMonitor.Act

/-! The full-screen display: a status line, a command line, a window for the handler and one
for the packets below it. -/

namespace GnssMonitor

inductive Attribute
  | normal
  | bold
  | reverse
  deriving DecidableEq, Repr

/-- The whole screen, or one of the windows made on it. -/
inductive WindowId
  | whole
  | made (n : Nat)
  deriving DecidableEq, Repr

/-- What is done to a window of the terminal library. -/
inductive WindowCall
  | intrflush (on : Bool)
  | keypad (on : Bool)
  | scrollok (on : Bool)
  | setscrreg (top bottom : Int)
  | clearok (on : Bool)
  | clear
  | erase
  | noutrefresh
  | refresh
  | move (row col : Int)
  | clrtoeol
  | addch (key : Int)
  | addText (text : String)
  | addTextAt (row col : Int) (text : String)
  | addStyledAt (row col : Int) (text : String) (style : Attribute)
  | addBounded (text : String) (bound : Int) (style : Attribute)
  | addBoundedAt (row col : Int) (text : String) (bound : Int) (style : Attribute)
  deriving DecidableEq, Repr

/-- The name of the call in the terminal library. -/
def WindowCall.name : WindowCall → String
  | intrflush _ => "intrflush"
  | keypad _ => "keypad"
  | scrollok _ => "scrollok"
  | setscrreg _ _ => "setscrreg"
  | clearok _ => "clearok"
  | clear => "clear"
  | erase => "erase"
  | noutrefresh => "noutrefresh"
  | refresh => "refresh"
  | move _ _ => "move"
  | clrtoeol => "clrtoeol"
  | addch _ => "addch"
  | addText _ | addTextAt _ _ _ | addStyledAt _ _ _ _ => "addstr"
  | addBounded _ _ _ | addBoundedAt _ _ _ _ _ => "addnstr"

inductive ScreenEffect
  | cbreak (on : Bool)
  | echo (on : Bool)
  | newwin (n : Nat) (rows columns top left : Int)
  | doupdate
  | beep
  | endwin
  | window (w : WindowId) (c : WindowCall)
  deriving DecidableEq, Repr

structure Screen where
  rows : Int := 24
  columns : Int := 80
  /-- Whether there is a terminal that can show it. -/
  available : Bool := true
  /-- The names of the calls that windows refuse. -/
  refused : List String := []
  /-- How many windows have been made. -/
  made : Nat := 0
  /-- Whether the screen is in use. -/
  started : Bool := false
  statusLine : Option Nat := none
  commandLine : Option Nat := none
  packets : Option Nat := none
  device : Option Nat := none
  /-- The column behind the prompt on the command line. -/
  promptLength : Nat := 0
  deriving DecidableEq, Repr

namespace Screen

abbrev Do := Act ScreenEffect Screen

/-- The rows of status and command line. -/
def headRows : Nat := 2

/-- A call is seen before it is refused. -/
def call (w : WindowId) (c : WindowCall) : Do Unit := do
  Act.emit (.window w c)
  if c.name ∈ (← get).refused then throw .windowRefused

/-- Calls on a window; nothing can be asked of one that is not there. -/
def callOn (w : Option Nat) (c : WindowCall) : Do Unit :=
  match w with
  | some n => call (.made n) c
  | none => throw (.absent c.name)

def callWhole (c : WindowCall) : Do Unit := do
  if (← get).started then call .whole c else throw (.absent c.name)

/-- Makes a call whose refusal does not matter: writing the last cell of a window is refused
although it is written. -/
def attempt (x : Do Unit) : Do Unit :=
  try x
  catch
    | .windowRefused => pure ()
    | e => throw e

def newWindow (rows top : Int) : Do Nat := do
  let n := (← get).made + 1
  modify fun s => { s with made := n }
  Act.emit (.newwin n rows (← get).columns top 0)
  return n

/-- Splits the rows below the head between the handler and the packets, which get at least
one row. -/
def layOut (rows : Int) : Do Unit := do
  if 0 < rows then
    let n ← newWindow rows headRows
    modify fun s => { s with device := some n }
  else modify fun s => { s with device := none }
  let left := max ((← get).rows - headRows - rows) 1
  let n ← newWindow left (headRows + rows)
  modify fun s => { s with packets := some n }
  callOn (some n) (.scrollok true)
  callOn (some n) (.setscrreg 0 (left - 1))
  Act.emit .doupdate

def promptText : String := "> "

def showPrompt : Do Unit := do
  let w := (← get).commandLine
  callOn w .erase
  callOn w (.addTextAt 0 0 promptText)
  modify fun s => { s with promptLength := promptText.length }
  callOn w .noutrefresh

def showStatus (text : String) : Do Unit := do
  let s ← get
  callOn s.statusLine .erase
  callOn s.statusLine (.addBoundedAt 0 0 text (s.columns - 1) .reverse)
  callOn s.statusLine .noutrefresh
  showPrompt
  Act.emit .doupdate

/-- Takes the terminal over; false when it cannot show a screen. -/
def start (prompt : String) : Do Bool := do
  if !(← get).available then return false
  modify fun s => { s with started := true }
  Act.emit (.cbreak true)
  Act.emit (.echo false)
  callWhole (.intrflush false)
  callWhole (.keypad true)
  let status ← newWindow 1 0
  modify fun s => { s with statusLine := some status }
  let command ← newWindow 1 1
  modify fun s => { s with commandLine := some command }
  layOut 0
  showStatus prompt
  return true

def stop : Do Unit := do
  if (← get).started then
    Act.emit (.cbreak false)
    callWhole (.keypad false)
    Act.emit (.echo true)
    Act.emit .endwin
    modify fun s => { s with started := false }

def clear : Do Unit := do
  callWhole (.clearok true)
  callWhole .clear
  callWhole .noutrefresh

/-- Shows a line in the packet window. -/
def append (text : String) : Do Unit := do
  let s ← get
  attempt (callOn s.packets (.addText text))
  callOn s.packets .noutrefresh
  if s.device.isSome then callOn s.device .noutrefresh
  Act.emit .doupdate

/-- Shows a complaint behind the prompt. -/
def complain (text : String) : Do Unit := do
  let s ← get
  callOn s.commandLine (.move 0 s.promptLength)
  callOn s.commandLine .clrtoeol
  callOn s.commandLine (.addBounded text (max (s.columns - s.promptLength - 1) 1) .bold)
  callOn s.commandLine .refresh
  Act.emit .beep

/-- The key that has the screen drawn anew. -/
def redrawKey : Int := 0x0c

/-- Reads a command, given the key that is pressed and what is typed after it. A key beyond
the characters of one byte is no command. -/
def read (key : Int) (rest : Bytes) : Do (Option String) := do
  if (← get).commandLine.isNone then throw (.absent "getch")
  if key = redrawKey then
    callWhole (.clearok true)
    callWhole .refresh
    return none
  if key < 0 ∨ 0xff < key then return none
  showPrompt
  callOn (← get).commandLine (.addch key)
  Act.emit (.echo true)
  Act.emit (.echo false)
  showPrompt
  Act.emit .doupdate
  return some (String.ofList (Char.ofNat key.toNat :: Text.decodeAsciiLossy rest))

/-- Calls on the handler's window, `operation` being what is asked of it. -/
def callOnDevice (operation : String) (c : WindowCall) : Do Unit := do
  match (← get).device with
  | some n => call (.made n) c
  | none => throw (.absent operation)

def put (row col : Int) (text : String) (bold : Bool) : Do Unit :=
  attempt (callOnDevice "put" (.addStyledAt row col text (if bold then .bold else .normal)))

def erase : Do Unit := callOnDevice "clear" .erase

def refresh : Do Unit := callOnDevice "refresh" .noutrefresh

/-- How wide the handler's window is. -/
def width : Do Int := do
  match (← get).device with
  | some _ => return (← get).columns
  | none => throw (.absent "width")

end Screen
end GnssMonitor
