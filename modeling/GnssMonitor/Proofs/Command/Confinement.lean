import GnssMonitor.Proofs.Command.Execution
import GnssMonitor.Proofs.Desk.Stints
import GnssMonitor.Proofs.Logbook

/-! Each command has its own parts of the state to change. However it ends, and whatever the
device and the file system do to it, the other parts are as they were. -/

namespace GnssMonitor

namespace Monitor

open Act (Obeys)

/-- The parts of the state that there are commands to change. -/
inductive Part
  | probing
  | line
  | fallback
  | receiver
  | log

/-- The verbs of the commands that change the part. -/
def Part.verbs : Part → List Char
  | probing => ['i']
  | line => ['s']
  | fallback => ['n', 't']
  | receiver => ['t']
  | log => ['l']

/-- The part is as it was. The open log stays open, and at most notes have been written to it. -/
def Part.Kept (m m' : Monitor) : Part → Prop
  | probing => m'.session.readonly = m.session.readonly ∧
      m'.session.framer.count = m.session.framer.count
  | line => m'.session.line = m.session.line ∧ m'.session.endpoint = m.session.endpoint
  | fallback => m'.desk.fallback = m.desk.fallback
  | receiver => m'.session.device = m.session.device ∧ m'.desk.active = m.desk.active ∧
      m'.desk.panels = m.desk.panels ∧ m'.desk.surface.window = m.desk.surface.window
  | log => m'.desk.log.place = m.desk.log.place ∧ ∃ notes, m'.desk.log = m.desk.log.noted notes

/-- What is left of the state without these parts. -/
def elsewhere (m : Monitor) : Monitor :=
  let s := { m.session with readonly := true, framer.count := 0, line := {}, device := none }
  let d := { m.desk with fallback := none, active := none, panels := [], log := {} }
  ({ s with endpoint := none }, { d with surface.window := none })

/-- Only the parts that the command is there for may have changed. -/
structure Confined (verb : Option Char) (m m' : Monitor) : Prop where
  part (p : Part) (other : ∀ v ∈ p.verbs, verb ≠ some v) : p.Kept m m'
  elsewhere : m'.elsewhere = m.elsewhere

theorem Part.kept_refl (m : Monitor) (p : Part) : p.Kept m m := by
  cases p with
  | log => exact ⟨rfl, [], rfl⟩
  | _ => simp [Part.Kept]

theorem Part.Kept.trans {m m' m'' : Monitor} {p : Part} (h : p.Kept m m') (h' : p.Kept m' m'') :
    p.Kept m m'' := by
  cases p with
  | log =>
    obtain ⟨place, notes, noted⟩ := h
    obtain ⟨place', notes', noted'⟩ := h'
    refine ⟨place'.trans place, notes ++ notes', ?_⟩
    rw [noted', noted, Logbook.noted_noted]
  | _ => simp_all [Part.Kept]

variable {verb : Option Char}

theorem confined_refl (m : Monitor) : Confined verb m m := ⟨fun p _ => p.kept_refl m, rfl⟩

instance : Act.Composes fun m (_ : List Effect) m' => Confined verb m m' where
  nothing m := confined_refl m
  next first second :=
    ⟨fun p other => (first.part p other).trans (second.part p other),
      second.elsewhere.trans first.elsewhere⟩

/-- Nothing but this part has become another. -/
inductive Alters : Part → Monitor → Monitor → Prop
  | probing (s : Session) (d : Desk) (readonly : Bool) (count : Int) :
      Alters .probing (s, d) ({ s with readonly, framer.count := count }, d)
  | line (s : Session) (d : Desk) (endpoint : Option Endpoint) (line : LineSettings) :
      Alters .line (s, d) ({ s with endpoint, line }, d)
  | fallback (s : Session) (d : Desk) (fallback : Option Receiver) :
      Alters .fallback (s, d) (s, { d with fallback })
  | device (s : Session) (d : Desk) (device : Option Receiver) :
      Alters .receiver (s, d) ({ s with device }, d)
  | handler (s : Session) (d : Desk) (active : Option Handler) (panels : List (String × Panel))
      (window : Option Window) :
      Alters .receiver (s, d) (s, { d with active, panels, surface.window := window })
  | log (s : Session) (d : Desk) (log : Logbook) : Alters .log (s, d) (s, { d with log })

/-- A change to a part is for the commands that are there for it. -/
theorem Alters.confined {own : Part} {m m' : Monitor} (h : Alters own m m') {v : Char}
    (mine : v ∈ own.verbs) (asked : verb = some v) : Confined verb m m' := by
  constructor
  · intro p other
    have apart : p ≠ own := by
      rintro rfl
      exact other v mine asked
    cases h <;> cases p <;> simp_all [Part.Kept, session, desk]
  · cases h <;> rfl

theorem permits_confined (verb : Option Char) :
    Permits (verb = some ·) fun m _ m' => Confined verb m m' where
  complains m _ _ := confined_refl m
  notes s d bs := by
    constructor
    · intro p _
      cases p with
      | log => exact ⟨Logbook.place_noted [bs] d.log, [bs], rfl⟩
      | _ => simp [Part.Kept, session, desk]
    · rfl
  logs s d log asked := (Alters.log s d log).confined (by decide) asked
  sends m _ _ _ := confined_refl m
  settles m _ := confined_refl m
  reboots m := confined_refl m
  hooks m _ _ := confined_refl m
  probes s d readonly _ asked :=
    (Alters.probing s d readonly s.framer.count).confined (by decide) asked
  recounts s d _ asked := (Alters.probing s d s.readonly 0).confined (by decide) asked
  remembers s d r asked := (Alters.fallback s d (some r)).confined (by decide) asked
  relines m line _ asked := by
    obtain ⟨endpoint, line', relined⟩ := setLine_state line m
    unfold Obeys
    rw [relined]
    exact (Alters.line m.session m.desk endpoint line').confined (by decide) asked
  switches m r _ _ asked := by
    obtain ⟨_, window, panels, on⟩ := Desk.switchTo_shows r m.session m.desk
    have kept : (onDesk (Desk.switchTo r m.session) m).state = (m.session,
        { m.desk with active := m.desk.heir r, surface.window := window, panels }) :=
      Prod.ext rfl on
    unfold Obeys
    rw [kept]
    exact (Alters.handler m.session m.desk _ panels window).confined (by decide) asked
  forces s d r _ _ asked := (Alters.device s d (some r)).confined (by decide) asked
  forgets s d asked := (Alters.fallback s d none).confined (by decide) asked

/-- **Each command changes its own part of the state alone.** Whatever is typed, and however the
device and the file system take it, only the parts of the state that there are commands with this
verb for may differ afterwards, also when the command stops midway with a fault; so the last kind
of packet selected, the bytes not framed yet and what has been made of the time reports never do.
A private command changes none of these parts, and whatever may write for a while may no longer
do so once it is through, however it ends. -/
theorem command_confined (m : Monitor) :
    (∀ line, Confined ((Command.read? line).map (·.verb)) m (execute line m).state) ∧
      (∀ cs, Confined none m (privateCommand cs m).state) ∧
      ∀ {α : Type} (x : Session.Do α) (s : Session),
        (Session.writable x s).state.readonly = s.readonly := by
  refine ⟨fun line => ?_, fun cs => ?_, fun x s => rfl⟩
  · have asked : ∀ c ∈ Command.read? line, (Command.read? line).map (·.verb) = some c.verb := by
      intro c read
      rw [Option.mem_def.mp read, Option.map_some]
    exact execute_obeys (permits_confined _) asked m
  · exact privateCommand_obeys (permits_confined none) cs m

end Monitor
end GnssMonitor
