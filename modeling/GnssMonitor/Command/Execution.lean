import GnssMonitor.Command.PrivateCommands

/-! What the operator's commands do. Device commands are for serial lines only; the receiver
asked is the remembered one if it can do what is wanted, else the live one. -/

namespace GnssMonitor.Monitor

/-- Whether a device command may go on; if not, the operator is told why. -/
def permit (missing : Option String) : Do Bool := do
  let s := (← get).session
  match missing with
  | some text =>
    if s.device.isNone then
      complain text
      return false
  | none => pure ()
  if s.source.isSerial then return true
  complain "Only available in low-level mode."
  return false

def noDevice : Option String := some "No device defined yet"

def nameOf (r : Option Receiver) : String := (r.map (·.name)).getD ""

/-- The receiver to ask; if it cannot do what is wanted the operator is told so. -/
def chosen (c : Capability) (what : String) : Do (Option Receiver) := do
  let m ← get
  let r := Receiver.select c m.session.device m.desk.fallback
  if r.any (·.has c) then return r
  complain s!"Device type {nameOf r} has no {what}"
  return none

def announce (text : String) : Do Unit := onDesk (Desk.announce text)

/-- Lets output leave and the receiver take it in. -/
def settle : Do Unit := do
  onSession Session.drain
  Act.emit (.pause .settle)

def changeRate (arg : String) : Do Unit := do
  if !(← permit noDevice) then return
  match (Text.readNumber arg.toList).filter (·.isFinite) with
  | none => complain s!"Invalid rate '{arg}'"
  | some rate =>
    match ← chosen .rate "rate switcher" with
    | none => return
    | some r =>
      if ← onSession (Session.writable (Session.switchRate (some r) rate)) then
        announce "[Rate switcher called.]"
      else complain "Rate not supported."

/-- A number turns probing on or, if it is zero, off; anything else toggles it. Once on, the
next packet counts as the first. -/
def toggleProbing (arg : String) : Do Unit := do
  if !(← permit (some "No GPS type detected.")) then return
  let s := (← get).session
  let readonly := match Text.readInteger arg.toList with
    | .ok n => n == 0
    | .error _ => !s.readonly
  onSession (modify fun s => { s with readonly })
  announce (if readonly then "[probing disabled]" else "[probing enabled]")
  if !readonly then onSession (modify fun s => { s with framer.count := 0 })

def openLog (arg : String) : Do Unit := do
  onDesk Desk.closeLog
  if arg.isEmpty then return
  if !(← onDesk (Desk.openLog arg .appending)) then complain s!"Couldn't open log file {arg}"

/-- Without a number the mode changes to what is not spoken at present. After a change to
sentences the receiver is remembered, so that one can change back. -/
def changeMode (arg : String) : Do Unit := do
  let s := (← get).session
  let mode := match Text.readInteger arg.toList with
    | .ok n => n
    | .error _ => if s.framer.kind.isTextual then binaryMode else sentenceMode
  if !(← permit noDevice) then return
  match ← chosen .mode "mode switcher" with
  | none => return
  | some r =>
    announce s!"[Mode switcher to mode {mode}]"
    if ← onSession (Session.writable (Session.switchMode (some r) mode)) then
      settle
      if mode = sentenceMode then modifyDesk fun d => { d with fallback := some r }
    else complain "Mode switch not supported."

/-- Word length, parity and stop bits, a character each; what is missing counts as a blank.
What follows is passed over. -/
def readFraming (cs : List Char) : Except String (Int × String × Int) :=
  let wordLength := cs.getD 0 ' '
  let parity := cs.getD 1 ' '
  let stopBits := cs.getD 2 ' '
  if wordLength ∉ ['7', '8'] then .error "No support for that word length."
  else if parity ∉ ['N', 'O', 'E'] then .error s!"What parity is '{parity}'?."
  else if stopBits ∉ ['1', '2'] then .error "Stop bits must be 1 or 2."
  else .ok (if wordLength = '7' then 7 else 8, String.singleton parity,
    if stopBits = '1' then 1 else 2)

/-- The number at the front, white space before it and anything behind it passed over. -/
def readSpeed (cs : List Char) : Option (Except Text.IntegerFault Int) :=
  let digits := (cs.dropWhile Text.isBlank).takeWhile Text.isDigit
  if digits.isEmpty then none else some (Text.readInteger digits)

def isColon (c : Char) : Bool := c == ':'

/-- The line settings asked for: a speed and, behind a colon, a framing in place of the
present one. The framing is looked at first. -/
def readLine (present : LineSettings) (arg : List Char) :
    Except String (Except Text.IntegerFault LineSettings) := do
  let head := arg.takeWhile (!isColon ·)
  let framed ← match arg.dropWhile (!isColon ·) with
    | [] => pure present
    | _ :: framing => do
      let (wordLength, parity, stopBits) ← readFraming framing
      pure { present with wordLength, parity, stopBits }
  match readSpeed head with
  | none => throw s!"Invalid speed '{String.ofList head}'"
  | some speed => return speed.map fun baud => { framed with baud }

/-- The receiver is told first; the local line follows once the message has gone out. -/
def changeSpeed (arg : String) : Do Unit := do
  if !(← permit noDevice) then return
  match readLine (← get).session.line arg.toList with
  | .error text => complain text
  | .ok line =>
    let line ← Act.lift (asFault .notInteger line)
    match ← chosen .speed "speed switcher" with
    | none => return
    | some r =>
      if ← onSession (Session.writable (Session.switchSpeed (some r) line)) then
        announce "[Speed switcher called.]"
        settle
        onSession (Session.setLine line)
      else complain "Speed/mode combination not supported."

/-- Whether one text stands somewhere in another. -/
def occursIn (part : List Char) : List Char → Bool
  | [] => part.isEmpty
  | c :: cs => part.isPrefixOf (c :: cs) || occursIn part cs

/-- Forces the one receiver whose name holds the argument. -/
def forceReceiver (arg : String) : Do Unit := do
  if !(← permit none) then return
  if arg.isEmpty then return
  match Receiver.all.filter fun r => occursIn arg.toList r.name.toList with
  | [] => complain s!"No driver type matches '{arg}'."
  | [r] =>
    let s := (← get).session
    if ← onDesk (Desk.switchTo r s) then
      let _ ← onSession (Session.switchReceiver r.name)
      modifyDesk fun d => { d with fallback := none }
  | _ => complain s!"Multiple driver type names match '{arg}'."

/-- The bytes typed; what is no hexadecimal text is complained of. -/
def hexArgument (arg : String) : Do (Option Bytes) := do
  match Hex.read arg with
  | .ok payload => return some payload
  | .error e =>
    complain s!"Invalid hex string ({e.message})"
    return none

def sendControl (arg : String) : Do Unit := do
  if !(← permit noDevice) then return
  match ← hexArgument arg with
  | none => return
  | some payload =>
    let device := (← get).session.device
    match device.filter (·.has .control) with
    | none => complain s!"Device type {nameOf device} has no control-send method."
    | some r =>
      if (← onSession (Session.writable (Session.sendControl (some r) payload))) = -1 then
        complain "Control send failed."

def sendRaw (arg : String) : Do Unit := do
  if !(← permit none) then return
  match ← hexArgument arg with
  | none => return
  | some payload =>
    if (← onSession (Session.write payload)) ≠ payload.length then complain "Raw send failed."

def perform (c : Command) : Do CommandResult := do
  match c.verb with
  | 'c' => changeRate c.argument
  | 'i' => toggleProbing c.argument
  | 'l' => openLog c.argument
  | 'n' => changeMode c.argument
  | 'q' => return .quit
  | 's' => changeSpeed c.argument
  | 't' => forceReceiver c.argument
  | 'x' => sendControl c.argument
  | 'X' => sendRaw c.argument
  | verb => complain s!"Unknown command '{verb}'"
  return .proceed

/-- The faults of the receiver, the line or the log that a command lives through. -/
def isSurvivable : Fault → Bool
  | .incapable _ _ | .overflow _ | .hex _ | .notAscii _ | .notInteger _ | .badTimeField _
  | .integerTooLarge | .notFinite _ | .refusedSpeed _ | .writeFailed | .undrained _ | .storage _
  | .closedFile | .duplicateHandler _ | .zeroInFileName | .json (.undecodable _)
  | .json (.malformed _ _) | .json (.tooManyDigits _) => true
  | .json (.tooDeep _) | .notText _ | .tooFewFields | .unknownSetting _ | .absent _ | .inputClosed
  | .windowRefused | .noDebugLevel | .noReceiverName | .invariant | .crash => false

/-- Runs one line; the active handler's private commands come first. -/
def dispatch (c : Command) (line : List Char) : Do CommandResult := do
  match ← privateCommand line with
  | .terminate => return .quit
  | .matched => return .proceed
  | .unknown => perform c

/-- What goes wrong is put to the operator and ends nothing, unless the monitor itself is at
fault. -/
def recover (c : Command) (e : Fault) : Do CommandResult :=
  if isSurvivable e then do
    complain s!"Command '{c.verb}' failed: {e.message}"
    return .proceed
  else throw e

/-- Runs one line typed by the operator. -/
def execute (line : String) : Do CommandResult := do
  match Command.read? line with
  | none => return .proceed
  | some c =>
    try dispatch c (Command.withoutLineEnd line.toList)
    catch e => recover c e

end GnssMonitor.Monitor
