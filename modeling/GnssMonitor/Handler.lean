import GnssMonitor.Panel
import GnssMonitor.Receiver

/-! Handlers: how the packets of one receiver are shown, and which private commands it has. -/

namespace GnssMonitor

/-- What a private command made of a line. -/
inductive CommandStatus
  | unknown
  | matched
  | terminate
  deriving DecidableEq, Repr

/-- The hooks of a handler. A hook that is absent is passed over. -/
structure Hooks where
  /-- What the hook that enters the handler answers. -/
  enter : Option Bool := none
  update : Bool := false
  leave : Bool := false
  /-- The lines that the private command knows; it is absent without a table. -/
  command : Option (List (String × CommandStatus)) := none
  deriving DecidableEq, Repr

/-- A handler shows the panel of a receiver of sentences, or only runs hooks of its own. -/
inductive Presentation
  | panel (privateCommands : Bool)
  | hooks (h : Hooks)
  deriving DecidableEq, Repr

structure Handler where
  receiver : Receiver
  presentation : Presentation := .hooks {}
  /-- The size of its window. Any display has room for a size below zero. -/
  rows : Int := 0
  columns : Int := 80
  deriving DecidableEq, Repr

namespace Handler

def name (h : Handler) : String := h.receiver.name

def hasUpdate (h : Handler) : Bool :=
  match h.presentation with
  | .panel _ => true
  | .hooks k => k.update

def hasLeave (h : Handler) : Bool :=
  match h.presentation with
  | .panel _ => true
  | .hooks k => k.leave

/-- What entering answers, if there is a hook for it. -/
def enters (h : Handler) : Option Bool :=
  match h.presentation with
  | .panel _ => some true
  | .hooks k => k.enter

def isPrivate (h : Handler) : Bool :=
  match h.presentation with
  | .panel p => p
  | .hooks k => k.command.isSome

def panelFor (r : Receiver) (privateCommands : Bool) : Handler where
  receiver := r
  presentation := .panel privateCommands
  rows := Panel.height
  columns := Panel.width

end Handler

/-- Handlers in order, at most one for each receiver. -/
abbrev Registry := List Handler

namespace Registry

/-- The first name that stands twice. -/
def duplicate? (seen : List String) : Registry → Option String
  | [] => none
  | h :: rest => if h.name ∈ seen then some h.name else duplicate? (h.name :: seen) rest

def resolve (r : Registry) (name : String) : Option Handler := r.find? (·.name == name)

def startingWith (r : Registry) (front : String) : List Handler :=
  r.filter fun h => front.toList.isPrefixOf h.name.toList

/-- A panel for each receiver of sentences; a relay's packets are only listed. -/
def builtIn : Registry :=
  [Handler.panelFor .nmea0183 false, Handler.panelFor .ashtech true,
    Handler.panelFor .mtk3301 false, Handler.panelFor .sirf false,
    Handler.panelFor .garmin false, Handler.panelFor .fv18 false,
    Handler.panelFor .gpsClock false, Handler.panelFor .aivdm false,
    { receiver := .relay }]

/-- A line for each handler: the letters of its commands, a plus for private ones. -/
def listing (r : Registry) : String :=
  "General commands available per type. '+' means there are private commands.\n" ++
    String.join (r.map fun h =>
      let mark := if h.isPrivate then "+" else " "
      s!"i l q ^S ^Q {Receiver.letters (some h.receiver)} {mark}\t{h.name}\n")

end Registry
end GnssMonitor
