import GnssMonitor.Monitor.EventLoop
import GnssMonitor.Proofs.Session.Hooks

/-! One turn of the loop: what is known of an intake and of a command is known of the turn. -/

namespace GnssMonitor.Monitor

open Act (Obeys Composes)

/-- The relation allows what an intake consists of. -/
structure Intakes (T : Monitor → List Effect → Monitor → Prop) : Prop where
  reads (s : Session) (d : Desk) {e : Endpoint} (present : s.endpoint = some e) :
    T (s, d) [] ({ s with endpoint := some e.receive.2 }, d)
  frames (s : Session) (d : Desk) (framer : Framer) : T (s, d) [] ({ s with framer }, d)
  accepts (s : Session) (d : Desk) :
    T (s, d) ((Session.accept s).effects.map .line) ((Session.accept s).state, d)
  takes (s : Session) (d : Desk) :
    T (s, d) (Desk.takePacket s d).effects (s, (Desk.takePacket s d).state)

theorem Intakes.intake {T : Monitor → List Effect → Monitor → Prop} [Composes T] (p : Intakes T)
    (m : Monitor) : Obeys T m intake := by
  apply Session.intake_obeys
  · intro s d e present
    exact p.reads s d present
  · exact p.frames
  · intro f _ w
    apply Session.takeIn_obeys
    · exact Composes.next (p.frames w.1 w.2 f) (p.accepts _ w.2)
    · unfold Obeys
      rw [Session.runHook_apply]
      exact p.takes _ _

/-- The relation allows what comes of an operator who says no other lines than these. -/
structure Hears (said : String → Prop) (T : Monitor → List Effect → Monitor → Prop) : Prop where
  asks (m : Monitor) : T m [.ask m.prompt] m
  resumes (m : Monitor) : T m [.resume] m
  deafens (m : Monitor) : Obeys T m (modifyDesk fun d => { d with listening := false })
  executes (m : Monitor) (line : String) (there : said line) : Obeys T m (execute line)

/-- The relation allows what a turn of the loop consists of. -/
structure Serves (T : Monitor → List Effect → Monitor → Prop) : Prop
    extends Hears (fun _ => True) T where
  signals (m : Monitor) : Obeys T m (modifyDesk fun d => { d with signalled := true })
  intakes (m : Monitor) : Obeys T m intake

/-- The relation allows what a turn of the loop consists of in which the operator says no other
lines than these. -/
structure Attends (said : String → Prop) (T : Monitor → List Effect → Monitor → Prop) : Prop
    extends Hears said T where
  signals (m : Monitor) : Obeys T m (modifyDesk fun d => { d with signalled := true })
  intakes (m : Monitor) : Obeys T m intake

theorem Serves.attends {T : Monitor → List Effect → Monitor → Prop} (p : Serves T) :
    Attends (fun _ => True) T := ⟨p.toHears, p.signals, p.intakes⟩

section

variable {said : String → Prop} {T : Monitor → List Effect → Monitor → Prop} [Composes T]
  {m : Monitor}

theorem keystroke_obeys (p : Hears said T) {reply : Reply}
    (there : ∀ line, reply = .line line → said line) (m : Monitor) :
    Obeys T m (keystroke reply) := by
  have asked : Obeys T m (Act.emit (.ask m.prompt)) := p.asks m
  refine .get_bind (asked.bind fun _ _ => ?_)
  cases reply with
  | closed => exact (p.deafens _).bind fun _ _ => Act.obeys_pure none
  | nothing => exact Act.obeys_pure none
  | line text =>
    refine (p.executes _ text (there text rfl)).bind fun result _ => ?_
    cases result with
    | quit => exact Act.obeys_pure _
    | proceed =>
      have resumed : ∀ m, Obeys T m (Act.emit .resume) := p.resumes
      exact (resumed _).bind fun _ _ => Act.obeys_pure none

theorem serveDevice_obeys (intakes : Obeys T m intake) : Obeys T m serveDevice :=
  intakes.bind fun _ _ => .get_bind (Act.obeys_pure _)

theorem serveOperator_obeys (p : Hears said T) {reply : Option Reply}
    (there : ∀ line, reply = some (.line line) → said line) (m : Monitor) :
    Obeys T m (serveOperator reply) := by
  cases reply with
  | none => exact Act.obeys_pure none
  | some reply =>
    have heard : Obeys T m (keystroke reply) :=
      keystroke_obeys p (fun line same => there line (congrArg some same)) m
    exact .get_bind (Act.obeys_ite (fun _ => heard) fun _ => Act.obeys_pure none)

theorem attend_obeys (p : Hears said T) {w : Wake}
    (there : ∀ line, w.reply = some (.line line) → said line)
    (reads : w.deviceReady = true → Obeys T m intake) : Obeys T m (attend w) := by
  have heard (m : Monitor) : Obeys T m (serveOperator w.reply) := serveOperator_obeys p there m
  refine .get_bind (Act.obeys_ite (fun _ => Act.obeys_pure _) fun _ => ?_)
  refine Act.obeys_ite (fun _ => Act.obeys_pure _) fun _ => ?_
  refine Act.obeys_ite (fun ready => ?_) fun _ => heard _
  refine (serveDevice_obeys (reads ready)).bind fun cause _ => ?_
  cases cause with
  | some cause => exact Act.obeys_pure _
  | none => exact heard _

/-- A turn of the loop reads the device no further than the session has come when it begins. -/
theorem Hears.step (p : Hears said T)
    (signals : Obeys T m (modifyDesk fun d => { d with signalled := true })) {wait : Wait}
    (there : ∀ w line, wait = .woke w → w.reply = some (.line line) → said line)
    (reads : ∀ w, wait = .woke w → w.deviceReady = true → ∀ d, Obeys T (m.1, d) intake) :
    Obeys T m (step wait) := by
  refine .get_bind (Act.obeys_ite (fun _ => Act.obeys_pure _) fun _ => ?_)
  refine Act.obeys_unless ?_
  cases wait with
  | failed => exact Act.obeys_pure _
  | broken e => exact Act.obeys_throw e
  | woke w =>
    have attended (d : Desk) : Obeys T (m.1, d) (attend w) :=
      attend_obeys p (fun line => there w line rfl) fun ready => reads w rfl ready d
    refine Act.obeys_ite (fun _ => ?_) fun _ => attended m.2
    exact signals.bind fun _ _ => attended _

theorem Attends.step (p : Attends said T) {wait : Wait}
    (there : ∀ w line, wait = .woke w → w.reply = some (.line line) → said line) (m : Monitor) :
    Obeys T m (step wait) :=
  p.toHears.step (p.signals m) there fun _ _ _ d => p.intakes (m.1, d)

theorem step_obeys (p : Serves T) (wait : Wait) (m : Monitor) : Obeys T m (step wait) :=
  p.attends.step (fun _ _ _ _ => trivial) m

end

/-- The operator ends a run only on purpose. -/
theorem keystroke_cause {reply : Reply} {m : Monitor} {cause : Cause}
    (h : (keystroke reply m).value = .ok (some cause)) : cause = .quit := by
  obtain ⟨_, _, h⟩ := Act.bind_value_ok.mp h
  obtain ⟨_, _, h⟩ := Act.bind_value_ok.mp h
  cases reply with
  | closed => cases h
  | nothing => cases h
  | line text =>
    obtain ⟨result, _, h⟩ := Act.bind_value_ok.mp h
    cases result with
    | quit => cases h; rfl
    | proceed => cases h

theorem serveOperator_cause {reply : Option Reply} {m : Monitor} {cause : Cause}
    (h : (serveOperator reply m).value = .ok (some cause)) : cause = .quit := by
  cases reply with
  | none => cases h
  | some reply =>
    obtain ⟨m', _, h⟩ := Act.bind_value_ok.mp h
    cases listening : m'.desk.listening with
    | true =>
      rw [listening] at h
      exact keystroke_cause h
    | false =>
      rw [listening] at h
      cases h

theorem ofIntake?_ne (status : IntakeStatus) : Cause.ofIntake? status ≠ some .driverSwitch := by
  cases status <;> decide

end GnssMonitor.Monitor
