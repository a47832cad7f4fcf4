import GnssMonitor.Proofs.Command.Gates
import GnssMonitor.Proofs.Desk.Line
import GnssMonitor.Proofs.Session.Delivering

/-! What the device commands order the receiver to do. One that is rejected is complained of and does
nothing; one that is granted sends its own message and no other. -/

namespace GnssMonitor.Monitor

/-- What a line orders the device to do. -/
inductive Order
  | rate (interval : Binary64)
  | mode (n : Int)
  | speed (line : LineSettings)
  | control (payload : Bytes)
  | raw (payload : Bytes)

/-- The mode that is asked for: a number, or what is not spoken at present. -/
def modeAsked (speaking : PacketKind) (arg : String) : Int :=
  match Text.readInteger arg.toList with
  | .ok n => n
  | .error _ => if speaking.isTextual then binaryMode else sentenceMode

/-- The verb is that of a device command. -/
def IsDevice (verb : Char) : Prop := verb ∈ ['c', 'n', 's', 'x', 'X']

instance (verb : Char) : Decidable (IsDevice verb) :=
  inferInstanceAs (Decidable (verb ∈ ['c', 'n', 's', 'x', 'X']))

/-- The order of a device command, if its argument can be read. A change of mode takes any. -/
def order? (s : Session) (c : Command) : Option Order :=
  match c.verb with
  | 'c' => ((Text.readNumber c.argument.toList).filter (·.isFinite)).map .rate
  | 'n' => some (.mode (modeAsked s.framer.kind c.argument))
  | 's' =>
    match readLine s.line c.argument.toList with
    | .ok (.ok line) => some (.speed line)
    | _ => none
  | 'x' => (Hex.read c.argument).toOption.map .control
  | 'X' => (Hex.read c.argument).toOption.map .raw
  | _ => none

/-- What the receiver has to be capable of. -/
def needed? : Char → Option Capability
  | 'c' => some .rate
  | 'n' => some .mode
  | 's' => some .speed
  | 'x' => some .control
  | _ => none

/-- The device command is not carried out. -/
inductive Rejected (m : Monitor) (c : Command) : Prop
  | relayed (h : m.session.source.isSerial = false)
  | unidentified (involved : c.verb ≠ 'X') (h : m.session.device = none)
  | unread (h : order? m.session c = none)
  | incapable {k : Capability} (needed : needed? c.verb = some k) (h : m.capable k = none)

namespace Order

/-- The message of an order, by the receiver that carries it out. -/
def message (m : Monitor) : Order → Except Fault (Option Bytes)
  | rate interval =>
    match (m.capable .rate).bind (·.rateSwitch) with
    | some switch => switch.message interval
    | none => .ok none
  | mode n =>
    match (m.capable .mode).bind (·.modeSwitch) with
    | some switch => switch.message m.session.line.baud n
    | none => .ok none
  | speed line =>
    match (m.capable .speed).bind (·.speedSwitch) with
    | some switch => switch.message m.session.framer.kind line
    | none => .ok none
  | control payload =>
    match (m.capable .control).bind (·.control) with
    | some framing => (framing.message payload).map some
    | none => .ok none
  | raw payload => .ok (some payload)

def note (n : Int) : String := s!"[Mode switcher to mode {n}]"

/-- The note that goes before a change of mode is taken by the log. -/
def noted (m : Monitor) : Order → Bool
  | mode n => (announce (note n) m).value.isOk
  | _ => true

/-- What an order comes to on the line. -/
def sent (m : Monitor) (o : Order) : List Bytes :=
  if m.session.takes && o.noted m then (o.message m).toOption.join.toList else []

end Order

/-- All that is complained of, in order. -/
def complaints (es : List Effect) : List String :=
  es.filterMap fun
    | .complain text => some text
    | _ => none

@[simp] theorem complaints_append (es es' : List Effect) :
    complaints (es ++ es') = complaints es ++ complaints es' := List.filterMap_append

/-- All that is written to the device, in order. -/
def written (es : List Effect) : List Bytes := Session.writes (onLine es)

@[simp] theorem written_append (es es' : List Effect) :
    written (es ++ es') = written es ++ written es' := by
  unfold written
  rw [onLine_append, Session.writes_append]

theorem written_map_line (es : List LineEffect) : written (es.map .line) = Session.writes es := by
  rw [written, onLine_map_line]

/-- Nothing is done to the device, and nothing is waited for. -/
def isIdle : Effect → Bool
  | .line _ | .pause _ => false
  | _ => true

variable {m : Monitor} {c : Command} {o : Order} {arg : String} {α β : Type}

theorem order?_speed {s : Session} : order? s ⟨'s', arg⟩ = some o ↔
    ∃ line, readLine s.line arg.toList = .ok (.ok line) ∧ .speed line = o := by
  match read : readLine s.line arg.toList with
  | .error text => simp [order?, read]
  | .ok (.error e) => simp [order?, read]
  | .ok (.ok line) => simp [order?, read]

theorem order?_control {s : Session} : order? s ⟨'x', arg⟩ = some o ↔
    ∃ payload, Hex.read arg = .ok payload ∧ .control payload = o := by
  cases read : Hex.read arg <;> simp [order?, read, Except.toOption]

theorem order?_raw {s : Session} : order? s ⟨'X', arg⟩ = some o ↔
    ∃ payload, Hex.read arg = .ok payload ∧ .raw payload = o := by
  cases read : Hex.read arg <;> simp [order?, read, Except.toOption]

/-- All that is done is one complaint, or the action stops with a fault that is complained of. -/
inductive Declines (m : Monitor) : Outcome Effect Monitor α → Prop
  | told (a : α) (text : String) : Declines m ⟨.ok a, m, [.complain text]⟩
  | stopped {e : Fault} (mild : isSurvivable e = true) : Declines m ⟨.error e, m, []⟩

theorem Declines.bind_pure {x : Do α} (g : α → β) (declines : Declines m (x m)) :
    Declines m ((x >>= fun a => pure (g a) : Do β) m) := by
  rw [Act.bind_pure_map]
  generalize x m = r at declines
  cases declines with
  | told a text => exact .told (g a) text
  | stopped mild => exact .stopped mild

/-- What is rejected once permitted is rejected. -/
theorem declines_permit {missing : Option String} {f : Bool → Do Unit} (ends : f false = pure ())
    (declines : m.session.source.isSerial = true → (missing.isSome → m.session.device.isSome) →
      Declines m (f true m)) : Declines m ((permit missing >>= f) m) := by
  by_cases refused :
      m.session.source.isSerial = false ∨ missing.isSome ∧ m.session.device = none
  · obtain ⟨text, told⟩ := permit_refused refused
    rw [Act.bind_of told, ends]
    exact .told () text
  · obtain ⟨serial, known⟩ := not_or.mp refused
    have serial : m.session.source.isSerial = true := by simpa using serial
    have known : missing.isSome → m.session.device.isSome := by
      intro there
      exact Option.isSome_iff_ne_none.mpr fun device => known ⟨there, device⟩
    rw [Act.bind_silent (permit_granted serial known)]
    exact declines serial known

theorem declines_chosen {k : Capability} {what : String} {f : Option Receiver → Do Unit}
    (other : k ≠ .control) (incapable : m.capable k = none) (ends : f none = pure ()) :
    Declines m ((chosen k what >>= f) m) := by
  have told := chosen_apply other what m
  rw [incapable] at told
  rw [Act.bind_of told, ends]
  exact .told () _

theorem declines_hexArgument {f : Option Bytes → Do Unit} (ends : f none = pure ())
    (declines : ∀ payload, Hex.read arg = .ok payload → Declines m (f (some payload) m)) :
    Declines m ((hexArgument arg >>= f) m) := by
  cases read : Hex.read arg with
  | error e =>
    have told := hexArgument_apply arg m
    rw [read] at told
    rw [Act.bind_of told, ends]
    exact .told () _
  | ok payload =>
    rw [Act.bind_silent (hexArgument_read read m)]
    exact declines payload read

/-- What could be read is rejected only for want of the capability. -/
theorem Rejected.incapable_of (rejected : Rejected m c)
    (serial : m.session.source.isSerial = true) (known : m.session.device.isSome)
    (read : order? m.session c = some o) {k : Capability} (needed : needed? c.verb = some k) :
    m.capable k = none := by
  cases rejected with
  | relayed h =>
    rw [serial] at h
    contradiction
  | unidentified _ h =>
    rw [h] at known
    contradiction
  | unread h =>
    rw [read] at h
    contradiction
  | incapable needed' h =>
    rw [needed] at needed'
    obtain rfl := Option.some.inj needed'
    exact h

theorem changeRate_declines (rejected : Rejected m ⟨'c', arg⟩) : Declines m (changeRate arg m) := by
  apply declines_permit rfl
  intro serial known
  cases read : (Text.readNumber arg.toList).filter (·.isFinite) with
  | none => exact .told () _
  | some rate =>
    have ordered : order? m.session ⟨'c', arg⟩ = some (.rate rate) := by simp [order?, read]
    exact declines_chosen nofun (rejected.incapable_of serial (known rfl) ordered rfl) rfl

theorem changeMode_declines (rejected : Rejected m ⟨'n', arg⟩) : Declines m (changeMode arg m) := by
  apply declines_permit rfl
  intro serial known
  exact declines_chosen nofun (rejected.incapable_of serial (known rfl) rfl rfl) rfl

theorem changeSpeed_declines (rejected : Rejected m ⟨'s', arg⟩) :
    Declines m (changeSpeed arg m) := by
  apply declines_permit rfl
  intro serial known
  simp only [Bool.not_true, Bool.false_eq_true, if_false, Act.get_bind]
  match read : readLine m.session.line arg.toList with
  | .error text => exact .told () text
  | .ok (.error e) => exact .stopped rfl
  | .ok (.ok line) =>
    have ordered : order? m.session ⟨'s', arg⟩ = some (.speed line) :=
      order?_speed.mpr ⟨line, read, rfl⟩
    exact declines_chosen nofun (rejected.incapable_of serial (known rfl) ordered rfl) rfl

theorem sendControl_declines (rejected : Rejected m ⟨'x', arg⟩) :
    Declines m (sendControl arg m) := by
  apply declines_permit rfl
  intro serial known
  refine declines_hexArgument rfl fun payload read => ?_
  have ordered : order? m.session ⟨'x', arg⟩ = some (.control payload) :=
    order?_control.mpr ⟨payload, read, rfl⟩
  have incapable : m.session.device.filter (·.has .control) = none :=
    rejected.incapable_of serial (known rfl) ordered rfl
  simp only [Act.get_bind, incapable]
  exact .told () _

theorem sendRaw_declines (rejected : Rejected m ⟨'X', arg⟩) : Declines m (sendRaw arg m) := by
  apply declines_permit rfl
  intro serial known
  refine declines_hexArgument rfl fun payload read => ?_
  exfalso
  cases rejected with
  | relayed h => simp [serial] at h
  | unidentified involved h => contradiction
  | unread h => cases h.symm.trans (order?_raw.mpr ⟨payload, read, rfl⟩)
  | incapable needed h => simp [needed?] at needed

theorem perform_declines (device : IsDevice c.verb) (rejected : Rejected m c) :
    Declines m (perform c m) := by
  obtain ⟨verb, arg⟩ := c
  simp only [IsDevice, List.mem_cons, List.not_mem_nil, or_false] at device
  obtain rfl | rfl | rfl | rfl | rfl := device
  · exact (changeRate_declines rejected).bind_pure _
  · exact (changeMode_declines rejected).bind_pure _
  · exact (changeSpeed_declines rejected).bind_pure _
  · exact (sendControl_declines rejected).bind_pure _
  · exact (sendRaw_declines rejected).bind_pure _

/-- What is rejected is only complained of. -/
theorem execute_rejected {line : String} (read : Command.read? line = some c)
    (device : IsDevice c.verb)
    (passed : (privateCommand (Command.withoutLineEnd line.toList) m).value = .ok .unknown)
    (rejected : Rejected m c) : ∃ text, execute line m =
      ⟨.ok .proceed, m, m.consulted (Command.withoutLineEnd line.toList) ++ [.complain text]⟩ := by
  have declines := perform_declines device rejected
  have same := execute_passed read passed
  revert same
  generalize performed : perform c m = r at declines
  cases declines with
  | told result text =>
    intro same
    have proceeds : result = .proceed := by
      refine perform_proceeds (m := m) ?_ (by rw [performed])
      rintro verb
      rw [verb] at device
      simp [IsDevice] at device
    rw [same, proceeds]
    exact ⟨text, rfl⟩
  | stopped mild =>
    intro same
    rw [same]
    simp only [recover_mild mild, List.append_nil]
    exact ⟨_, rfl⟩

/-- The device command is carried out. -/
structure Granted (m : Monitor) (c : Command) : Prop where
  serial : m.session.source.isSerial = true
  known : c.verb ≠ 'X' → m.session.device.isSome
  able : ∀ k, needed? c.verb = some k → ∃ r, m.capable k = some r

theorem Granted.permitted (granted : Granted m c) (involved : c.verb ≠ 'X') :
    permit noDevice m = ⟨.ok true, m, []⟩ :=
  permit_granted granted.serial fun _ => granted.known involved

theorem granted_of_capable (serial : m.session.source.isSerial = true)
    (known : m.session.device.isSome) {k : Capability} {r : Receiver}
    (needed : needed? c.verb = some k) (able : m.capable k = some r) : Granted m c := by
  refine ⟨serial, fun _ => known, ?_⟩
  intro k' needed'
  obtain rfl := Option.some.inj (needed.symm.trans needed')
  exact ⟨r, able⟩

/-- What is not rejected gives an order and is carried out. -/
theorem granted_of_not_rejected (kept : ¬ Rejected m c) :
    Granted m c ∧ ∃ o, order? m.session c = some o := by
  refine ⟨⟨?_, ?_, ?_⟩, ?_⟩
  · cases serial : m.session.source.isSerial with
    | true => rfl
    | false => exact absurd (.relayed serial) kept
  · intro involved
    cases device : m.session.device with
    | none => exact absurd (.unidentified involved device) kept
    | some r => rfl
  · intro k needed
    cases able : m.capable k with
    | none => exact absurd (.incapable needed able) kept
    | some r => exact ⟨r, rfl⟩
  · cases ordered : order? m.session c with
    | none => exact absurd (.unread ordered) kept
    | some o => exact ⟨o, rfl⟩

/-- Has the receiver change its mode. -/
def switchMode (r : Receiver) (n : Int) : Do Unit := do
  if ← onSession (Session.writable (Session.switchMode (some r) n)) then
    settle
    if n = sentenceMode then modifyDesk fun d => { d with fallback := some r }
  else complain "Mode switch not supported."

/-- The local line follows a receiver that has taken new settings. -/
def adopt (line : LineSettings) : Do Unit := do
  announce "[Speed switcher called.]"
  settle
  onSession (Session.setLine line)

/-- What is done with a rate once it is granted. -/
theorem changeRate_granted {r : Receiver} {rate : Binary64} (granted : Granted m ⟨'c', arg⟩)
    (read : (Text.readNumber arg.toList).filter (·.isFinite) = some rate)
    (able : m.capable .rate = some r) : changeRate arg m =
      (onSession (Session.writable (Session.switchRate (some r) rate)) >>= fun taken =>
        if taken then announce "[Rate switcher called.]" else complain "Rate not supported.") m := by
  unfold changeRate
  rw [Act.bind_silent (granted.permitted (by simp))]
  simp only [read, Bool.not_true, Bool.false_eq_true, if_false]
  rw [Act.bind_silent (chosen_capable able nofun _)]

/-- What is done with a mode once it is granted. -/
theorem changeMode_granted {r : Receiver} (granted : Granted m ⟨'n', arg⟩)
    (able : m.capable .mode = some r) : changeMode arg m =
      (announce (Order.note (modeAsked m.session.framer.kind arg)) >>= fun _ =>
        switchMode r (modeAsked m.session.framer.kind arg)) m := by
  unfold changeMode
  rw [Act.get_bind, Act.bind_silent (granted.permitted (by simp))]
  simp only [Bool.not_true, Bool.false_eq_true, if_false]
  rw [Act.bind_silent (chosen_capable able nofun _)]
  rfl

/-- What is done with a speed once it is granted. -/
theorem changeSpeed_granted {r : Receiver} {line : LineSettings} (granted : Granted m ⟨'s', arg⟩)
    (read : readLine m.session.line arg.toList = .ok (.ok line))
    (able : m.capable .speed = some r) : changeSpeed arg m =
      (onSession (Session.writable (Session.switchSpeed (some r) line)) >>= fun taken =>
        if taken then adopt line else complain "Speed/mode combination not supported.") m := by
  have plain : asFault Fault.notInteger (.ok line) = .ok line := rfl
  unfold changeSpeed
  rw [Act.bind_silent (granted.permitted (by simp))]
  simp only [Bool.not_true, Bool.false_eq_true, if_false, Act.get_bind, read, plain,
    Act.lift_ok_bind]
  rw [Act.bind_silent (chosen_capable able nofun _)]
  rfl

/-- What is done with a control message once it is granted. -/
theorem sendControl_granted {r : Receiver} {payload : Bytes} (granted : Granted m ⟨'x', arg⟩)
    (read : Hex.read arg = .ok payload) (able : m.capable .control = some r) :
    sendControl arg m =
      (onSession (Session.writable (Session.sendControl (some r) payload)) >>= fun count =>
        if count = -1 then complain "Control send failed." else pure ()) m := by
  have live : m.session.device.filter (·.has .control) = some r := able
  unfold sendControl
  rw [Act.bind_silent (granted.permitted (by simp))]
  simp only [Bool.not_true, Bool.false_eq_true, if_false]
  rw [Act.bind_silent (hexArgument_read read m)]
  simp only [Act.get_bind, live]

/-- What is done with bytes as they are once it is granted. -/
theorem sendRaw_granted {payload : Bytes} (granted : Granted m ⟨'X', arg⟩)
    (read : Hex.read arg = .ok payload) : sendRaw arg m =
      (onSession (Session.write payload) >>= fun count =>
        if count ≠ payload.length then complain "Raw send failed." else pure ()) m := by
  have permitted : permit none m = ⟨.ok true, m, []⟩ := permit_granted granted.serial nofun
  unfold sendRaw
  rw [Act.bind_silent permitted]
  simp only [Bool.not_true, Bool.false_eq_true, if_false]
  rw [Act.bind_silent (hexArgument_read read m)]

/-- What follows is told and noted, and nothing is written. -/
theorem written_bind {x : Do α} {f : α → Do β} (silent : ∀ a m, written (f a m).effects = []) :
    written ((x >>= f) m).effects = written (x m).effects := by
  cases answer : (x m).value with
  | error e => rw [Act.bind_error answer]
  | ok a => rw [Act.bind_ok answer, written_append, silent, List.append_nil]

theorem written_settle (m : Monitor) : written (settle m).effects = [] := by
  rw [settle_apply]
  cases m.session.undrained? with
  | some e => rfl
  | none => cases m.session.port?.isSome <;> rfl

theorem written_switchMode {r : Receiver} {switch : ModeSwitch}
    (has : r.modeSwitch = some switch) (n : Int) (m : Monitor) :
    written (switchMode r n m).effects =
      Session.writes (Session.send (switch.message m.session.line.baud n) m.session).effects := by
  unfold switchMode
  rw [written_bind, onSession_apply, written_map_line, Session.switchMode_has has]
  intro taken m'
  cases taken with
  | false => rfl
  | true =>
    rw [if_pos rfl, written_bind, written_settle]
    intro _ _
    split <;> rfl

theorem written_adopt (line : LineSettings) (m : Monitor) :
    written (adopt line m).effects = [] := by
  unfold adopt
  rw [written_bind]
  · rfl
  intro _ m'
  rw [written_bind, written_settle]
  intro _ m''
  rw [onSession_apply, written_map_line]
  exact Session.writes_setLine line _

/-- What goes out is what is sent of the message. -/
theorem sent_of_message {message : Except Fault (Option Bytes)} (own : o.message m = message)
    (noted : o.noted m = true) :
    o.sent m = Session.writes (Session.send message m.session).effects := by
  rw [Order.sent, own, noted, Bool.and_true, Session.writes_send]

theorem changeRate_sends (granted : Granted m ⟨'c', arg⟩)
    (ordered : order? m.session ⟨'c', arg⟩ = some o) :
    written (changeRate arg m).effects = o.sent m := by
  obtain ⟨r, able⟩ := granted.able .rate rfl
  obtain ⟨switch, has⟩ := Option.isSome_iff_exists.mp (capable_has able)
  obtain ⟨rate, read, rfl⟩ := Option.map_eq_some_iff.mp ordered
  have own : (Order.rate rate).message m = switch.message rate := by simp [Order.message, able, has]
  rw [changeRate_granted granted read able, written_bind, onSession_apply, written_map_line,
    Session.switchRate_has has, sent_of_message own rfl]
  intro taken m'
  cases taken <;> rfl

theorem changeMode_sends (granted : Granted m ⟨'n', arg⟩)
    (ordered : order? m.session ⟨'n', arg⟩ = some o) :
    written (changeMode arg m).effects = o.sent m := by
  obtain ⟨r, able⟩ := granted.able .mode rfl
  obtain ⟨switch, has⟩ := Option.isSome_iff_exists.mp (capable_has able)
  obtain rfl := Option.some.inj ordered
  rw [changeMode_granted granted able]
  generalize modeAsked m.session.framer.kind arg = n
  have own : (Order.mode n).message m = switch.message m.session.line.baud n := by
    simp [Order.message, able, has]
  cases answer : (announce (Order.note n) m).value with
  | error e =>
    have unnoted : (Order.mode n).noted m = false := by
      simp [Order.noted, answer, Except.isOk, Except.toBool]
    rw [Act.bind_error answer, Order.sent, unnoted, Bool.and_false]
    rfl
  | ok u =>
    have noted : (Order.mode n).noted m = true := by
      simp [Order.noted, answer, Except.isOk, Except.toBool]
    rw [Act.bind_ok answer, written_append, written_switchMode has, sent_of_message own noted]
    rfl

theorem changeSpeed_sends (granted : Granted m ⟨'s', arg⟩)
    (ordered : order? m.session ⟨'s', arg⟩ = some o) :
    written (changeSpeed arg m).effects = o.sent m := by
  obtain ⟨r, able⟩ := granted.able .speed rfl
  obtain ⟨switch, has⟩ := Option.isSome_iff_exists.mp (capable_has able)
  obtain ⟨line, read, rfl⟩ := order?_speed.mp ordered
  have own : (Order.speed line).message m = switch.message m.session.framer.kind line := by
    simp [Order.message, able, has]
  rw [changeSpeed_granted granted read able, written_bind, onSession_apply, written_map_line,
    Session.switchSpeed_has has, sent_of_message own rfl]
  intro taken m'
  cases taken with
  | true => exact written_adopt line m'
  | false => rfl

theorem sendControl_sends (granted : Granted m ⟨'x', arg⟩)
    (ordered : order? m.session ⟨'x', arg⟩ = some o) :
    written (sendControl arg m).effects = o.sent m := by
  obtain ⟨r, able⟩ := granted.able .control rfl
  obtain ⟨framing, has⟩ := Option.isSome_iff_exists.mp (capable_has able)
  obtain ⟨payload, read, rfl⟩ := order?_control.mp ordered
  have own : (Order.control payload).message m = (framing.message payload).map some := by
    simp [Order.message, able, has]
  rw [sendControl_granted granted read able, written_bind, onSession_apply, written_map_line,
    Session.sendControl_has has, sent_of_message own rfl, Session.writes_send]
  · cases framing.message payload with
    | error e => exact (ite_self []).symm
    | ok bs => exact Session.write_writes bs m.session
  · intro count m'
    split <;> rfl

theorem sendRaw_sends (granted : Granted m ⟨'X', arg⟩)
    (ordered : order? m.session ⟨'X', arg⟩ = some o) :
    written (sendRaw arg m).effects = o.sent m := by
  obtain ⟨payload, read, rfl⟩ := order?_raw.mp ordered
  have own : (Order.raw payload).message m = .ok (some payload) := rfl
  rw [sendRaw_granted granted read, written_bind, onSession_apply, written_map_line,
    Session.write_writes, sent_of_message own rfl, Session.writes_send]
  · rfl
  · intro count m'
    split <;> rfl

theorem perform_sends (device : IsDevice c.verb) (granted : Granted m c)
    (ordered : order? m.session c = some o) : written (perform c m).effects = o.sent m := by
  have proceeds : ∀ {x : Do Unit}, written (x m).effects = o.sent m →
      written ((do x; return CommandResult.proceed : Do CommandResult) m).effects = o.sent m := by
    intro x sends
    rw [Act.bind_pure_const]
    exact sends
  obtain ⟨verb, arg⟩ := c
  simp only [IsDevice, List.mem_cons, List.not_mem_nil, or_false] at device
  obtain rfl | rfl | rfl | rfl | rfl := device
  · exact proceeds (changeRate_sends granted ordered)
  · exact proceeds (changeMode_sends granted ordered)
  · exact proceeds (changeSpeed_sends granted ordered)
  · exact proceeds (sendControl_sends granted ordered)
  · exact proceeds (sendRaw_sends granted ordered)

theorem consulted_idle (line : List Char) : ∀ e ∈ m.consulted line, isIdle e = true := by
  intro e there
  obtain ⟨_, rfl⟩ := consulted_hooks there
  rfl

theorem complaints_consulted (m : Monitor) (line : List Char) :
    complaints (m.consulted line) = [] := by
  apply List.filterMap_eq_nil_iff.mpr
  intro e there
  obtain ⟨_, rfl⟩ := consulted_hooks there
  rfl

theorem written_consulted (m : Monitor) (line : List Char) :
    written (m.consulted line) = [] := by
  have off : onLine (m.consulted line) = [] := by
    apply onLine_eq_nil.mpr
    intro e there
    obtain ⟨_, rfl⟩ := consulted_hooks there
    rfl
  rw [written, off]
  rfl

theorem execute_sends {line : String} (read : Command.read? line = some c)
    (device : IsDevice c.verb)
    (passed : (privateCommand (Command.withoutLineEnd line.toList) m).value = .ok .unknown)
    (granted : Granted m c) (ordered : order? m.session c = some o) :
    written (execute line m).effects = o.sent m := by
  have sends := perform_sends device granted ordered
  rw [execute_passed read passed]
  cases (perform c m).value with
  | ok result =>
    simp only [written_append, written_consulted, sends, List.nil_append]
  | error e =>
    have told : written (recover c e (perform c m).state).effects = [] := by
      unfold recover
      split <;> rfl
    simp only [written_append, written_consulted, sends, told, List.nil_append, List.append_nil]

theorem sent_length (m : Monitor) (o : Order) : (o.sent m).length ≤ 1 := by
  unfold Order.sent
  split
  · cases (o.message m).toOption.join <;> simp
  · simp

/-- What goes out is the message. -/
theorem message_of_sent {bs : Bytes} (there : bs ∈ o.sent m) : o.message m = .ok (some bs) := by
  unfold Order.sent at there
  split at there
  · match message : o.message m with
    | .error e => simp [message, Except.toOption] at there
    | .ok none => simp [message, Except.toOption] at there
    | .ok (some bs') =>
      obtain rfl : bs = bs' := by simpa [message, Except.toOption] using there
      rfl
  · simp at there

theorem control_of_sent {payload bs : Bytes}
    (there : bs ∈ (Order.control payload).sent m) :
    ∃ live framing, m.session.device = some live ∧ live.control = some framing ∧
      framing.message payload = .ok bs := by
  have message := message_of_sent there
  simp only [Order.message] at message
  split at message
  · rename_i framing found
    obtain ⟨live, able, has⟩ := Option.bind_eq_some_iff.mp found
    refine ⟨live, framing, (Option.filter_eq_some_iff.mp able).1, has, ?_⟩
    cases framed : framing.message payload with
    | error e =>
      rw [framed] at message
      contradiction
    | ok bs' =>
      rw [framed] at message
      exact congrArg _ (Option.some.inj (Except.ok.inj message))
  · cases Except.ok.inj message

/-- **A rejected device command never reaches the device, an accepted one sends one message.** For
any line with one of these verbs that no private command takes, in any state: if the session is
relayed, the receiver unknown where one is involved, the argument unreadable or the receiver asked
not capable, then nothing is done to the device, nothing is waited for, the state stays as it is,
and there is exactly one complaint. Otherwise the message of the order is sent and nothing else: once
if there is one, the endpoint takes writes and a change of mode could be noted, and else not. For x
it is the bytes typed in the framing of the live receiver, for X just these bytes. -/
theorem device_command_sends_once {line : String} (read : Command.read? line = some c)
    (device : IsDevice c.verb)
    (passed : (privateCommand (Command.withoutLineEnd line.toList) m).value = .ok .unknown) :
    let r := execute line m
    (Rejected m c → r.state = m ∧ (∀ e ∈ r.effects, isIdle e = true) ∧
      ∃ text, complaints r.effects = [text]) ∧
    (¬ Rejected m c → (∃ o, order? m.session c = some o ∧ written r.effects = o.sent m) ∧
      (written r.effects).length ≤ 1 ∧
      (c.verb = 'x' → ∀ bs ∈ written r.effects, ∃ live framing payload,
        m.session.device = some live ∧ live.control = some framing ∧
          Hex.read c.argument = .ok payload ∧ framing.message payload = .ok bs) ∧
      (c.verb = 'X' → ∀ bs ∈ written r.effects, Hex.read c.argument = .ok bs)) := by
  intro r
  constructor
  · intro rejected
    obtain ⟨text, told⟩ := execute_rejected read device passed rejected
    have made : r = _ := told
    rw [made]
    refine ⟨rfl, ?_, text, ?_⟩
    · exact List.forall_mem_append.mpr ⟨consulted_idle _, by simp [isIdle]⟩
    · rw [complaints_append, complaints_consulted]
      rfl
  · intro kept
    obtain ⟨granted, o, ordered⟩ := granted_of_not_rejected kept
    have sends : written r.effects = o.sent m := execute_sends read device passed granted ordered
    rw [sends]
    refine ⟨⟨o, ordered, rfl⟩, sent_length m o, ?_, ?_⟩
    · intro verb bs there
      obtain ⟨_, arg⟩ := c
      obtain rfl := verb
      match typed : Hex.read arg with
      | .error e => simp [order?, typed, Except.toOption] at ordered
      | .ok payload =>
        obtain rfl : Order.control payload = o := by
          simpa [order?, typed, Except.toOption] using ordered
        obtain ⟨live, framing, known, has, framed⟩ := control_of_sent there
        exact ⟨live, framing, payload, known, has, rfl, framed⟩
    · intro verb bs there
      obtain ⟨_, arg⟩ := c
      obtain rfl := verb
      match typed : Hex.read arg with
      | .error e => simp [order?, typed, Except.toOption] at ordered
      | .ok payload =>
        obtain rfl : Order.raw payload = o := by
          simpa [order?, typed, Except.toOption] using ordered
        have message := message_of_sent there
        exact congrArg _ (Option.some.inj (Except.ok.inj message))

/-- A serial line to a SiRF receiver: a control message goes out in a frame, a rate is rejected. -/
theorem device_command_sends_once_of_sirf :
    let m : Monitor := ({ Session.opened (.serial "/dev/ttyS0") with device := some .sirf },
      { hostname := "localhost" })
    ¬ Rejected m ⟨'x', "84 00"⟩ ∧ Rejected m ⟨'c', "1"⟩ ∧
      written (execute "x 84 00" m).effects =
        [[0xa0, 0xa2, 0, 2, 0x84, 0, 0, 0x84, 0xb0, 0xb3]] ∧
      (execute "c 1" m).state = m ∧ ∃ text, complaints (execute "c 1" m).effects = [text] := by
  intro m
  have read : Command.read? "x 84 00" = some ⟨'x', "84 00"⟩ := by decide +kernel
  have ordered : order? m.session ⟨'x', "84 00"⟩ = some (.control [0x84, 0]) := by rfl
  have kept : ¬ Rejected m ⟨'x', "84 00"⟩ := by
    rintro (h | ⟨_, h⟩ | h | ⟨needed, h⟩)
    · contradiction
    · contradiction
    · rw [ordered] at h
      contradiction
    · obtain rfl := Option.some.inj needed
      contradiction
  have rejected : Rejected m ⟨'c', "1"⟩ := .incapable (k := .rate) rfl (by decide)
  have read' : Command.read? "c 1" = some ⟨'c', "1"⟩ := by decide +kernel
  obtain ⟨_, sends⟩ := device_command_sends_once (m := m) read (by decide) rfl
  obtain ⟨declines, _⟩ := device_command_sends_once (m := m) read' (by decide) rfl
  obtain ⟨⟨o, ordered', sent⟩, _⟩ := sends kept
  obtain ⟨same, _, told⟩ := declines rejected
  obtain rfl := Option.some.inj (ordered.symm.trans ordered')
  refine ⟨kept, rejected, sent.trans ?_, same, told⟩
  decide +kernel

end GnssMonitor.Monitor
