import GnssMonitor.Display.Console
import GnssMonitor.Display.Screen
import GnssMonitor.Monitor.EventLoop

/-! The two displays behind one: what monitoring does is shown on a console or on a screen. -/

namespace GnssMonitor

inductive Display
  | console (c : Console)
  | screen (s : Screen)
  deriving DecidableEq, Repr

inductive DisplayEffect
  | console (e : ConsoleEffect)
  | screen (e : ScreenEffect)
  deriving DecidableEq, Repr

/-- A key that is pressed and what is typed after it. -/
structure Typed where
  key : Option UInt8 := none
  rest : String := ""
  deriving DecidableEq, Repr

namespace Display

abbrev Do := Act DisplayEffect Display

variable {α : Type}

def either (onConsole : Console.Do α) (onScreen : Screen.Do α) : Do α
  | .console c =>
    let r := onConsole c
    ⟨r.value, .console r.state, r.effects.map .console⟩
  | .screen s =>
    let r := onScreen s
    ⟨r.value, .screen r.state, r.effects.map .screen⟩

/-- The room there is for handlers. Only a screen has windows. -/
def surface : Display → Surface
  | console _ =>
    { rows := Console.unlimited, columns := Console.unlimited, hasWindows := false }
  | screen s => { rows := s.rows, columns := s.columns }

def start (prompt : String) : Do Bool :=
  either (do Console.start prompt; return true) (Screen.start prompt)

def stop : Do Unit := either Console.stop Screen.stop

/-- Asks for a command. -/
def read (prompt : String) (typed : Typed) : Do Reply :=
  either
    (do
      match ← Act.attempt (Console.read prompt typed.key typed.rest) with
      | .ok line => return .line line
      | .error _ => return .closed)
    (do
      let key := match typed.key with
        | some b => (b.toNat : Int)
        | none => -1
      match ← Screen.read key (Bytes.ofString typed.rest) with
      | some line => return .line line
      | none => return .nothing)

/-- What the operator will turn out to have said. -/
def reply (d : Display) (typed : Typed) : Reply :=
  match (read "" typed d).value with
  | .ok r => r
  | .error _ => .nothing

def drawOn : WindowOp → Screen.Do Unit
  | .clear => Screen.erase
  | .put row col text bold => Screen.put row col text bold
  | .refresh => Screen.refresh

/-- Shows an effect of monitoring. Those on the line and the clock are not for the display. -/
def perform (typed : Typed) : Effect → Do Unit
  | .append text => either (Console.append text) (Screen.append text)
  | .complain text => either (Console.complain text) (Screen.complain text)
  | .clear => either (pure ()) Screen.clear
  | .layout rows => either (pure ()) (Screen.layOut rows)
  | .status text => either (pure ()) (Screen.showStatus text)
  | .draw op => either (pure ()) (drawOn op)
  | .ask prompt => do
    let _ ← read prompt typed
  | .resume => either Console.resume (pure ())
  | .stop => stop
  | .line _ | .hook _ _ | .pause _ => pure ()

end Display
end GnssMonitor
