import GnssMonitor.Proofs.Command.LineRequest
import GnssMonitor.Proofs.Command.Orders
import GnssMonitor.Proofs.Session.Tuning

/-! A change of speed is all or nothing: the receiver is told first, and the local line follows only
once the message has left. -/

namespace GnssMonitor.Monitor

open Act (Obeys)

def speedNote : String := "[Speed switcher called.]"

/-- A change of speed goes through: the receiver reports success, the log takes the note, and the port
drains and has nothing against the speed. -/
structure Retunes (m : Monitor) (arg : String) (r : Receiver) (line : LineSettings) : Prop where
  serial : m.session.source.isSerial = true
  identified : m.session.device.isSome
  requested : Requests m.session.line arg.toList line
  able : m.capable .speed = some r
  reported : (Session.writable (Session.switchSpeed (some r) line) m.session).value = .ok true
  noted : (announce speedNote m).value = .ok ()
  drained : m.session.undrained? = none
  accepted : ∀ e ∈ m.session.port?, line.baud ∉ e.refused

/-- The session and its port with new settings. -/
def retuned (s : Session) (line : LineSettings) : Session :=
  { s with line, endpoint := s.endpoint.map ({ · with line }) }

/-- The message is written and flushed, the port is drained and the receiver settles. Only then does
the local speed change. -/
def delivery (bs : Bytes) (baud : Int) : List Effect :=
  [.line (.write bs), .line .flush, .line .flush, .pause .settle, .line (.baud baud)]

variable {m : Monitor} {arg : String} {r : Receiver} {line : LineSettings}

theorem Retunes.granted (h : Retunes m arg r line) : Granted m ⟨'s', arg⟩ :=
  granted_of_capable h.serial h.identified rfl h.able

theorem adopt_apply {e : Endpoint} (port : m.session.port? = some e) (known : line.Known)
    (noted : (announce speedNote m).value = .ok ()) (drained : m.session.undrained? = none) :
    adopt line m =
      if line.baud ∈ e.refused then
        ⟨.error (.refusedSpeed line.baud), (m.session, (announce speedNote m).state.desk),
          [.line .flush, .pause .settle]⟩
      else ⟨.ok (), (retuned m.session line, (announce speedNote m).state.desk),
        [.line .flush, .pause .settle, .line (.baud line.baud)]⟩ := by
  obtain ⟨present, _⟩ := Option.filter_eq_some_iff.mp port
  let m' := (announce speedNote m).state
  have settled : settle m' = ⟨.ok (), m', [.line .flush, .pause .settle]⟩ := by
    rw [settle_apply, show m'.session.undrained? = none from drained,
      show m'.session.port? = some e from port]
    rfl
  have set := Session.setLine_known (s := m'.session) port known
  have begun : adopt line m =
      (announce speedNote >>= fun _ => settle >>= fun _ => onSession (Session.setLine line)) m := rfl
  rw [begun, Act.bind_ok noted, Act.bind_of settled, onSession_apply, set]
  by_cases refused : line.baud ∈ e.refused
  · rw [if_pos refused, if_pos refused]
    rfl
  · rw [if_neg refused, if_neg refused, retuned, present]
    rfl

/-- Output that does not leave keeps the line as it is. -/
theorem adopt_undrained {e : Fault} (noted : (announce speedNote m).value = .ok ())
    (stuck : m.session.undrained? = some e) :
    adopt line m = ⟨.error e, (announce speedNote m).state, []⟩ := by
  let m' := (announce speedNote m).state
  have stopped : settle m' = ⟨.error e, m', []⟩ := by
    rw [settle_apply, show m'.session.undrained? = some e from stuck]
  have begun : adopt line m =
      (announce speedNote >>= fun _ => settle >>= fun _ => onSession (Session.setLine line)) m := rfl
  rw [begun, Act.bind_ok noted, Act.bind_error (by rw [stopped]), stopped]
  rfl

/-- A change of speed that goes through. -/
theorem changeSpeed_retunes (tuned : m.session.Tuned) (h : Retunes m arg r line) :
    ∃ bs, (Order.speed line).message m = .ok (some bs) ∧ changeSpeed arg m =
      ⟨.ok (), (retuned m.session line, (announce speedNote m).state.desk),
        (m.session.herald bs).map .line ++ delivery bs line.baud⟩ := by
  have read := readLine_iff.mpr h.requested
  have known := readLine_known tuned.known read
  obtain ⟨e, port, _⟩ := tuned.port
  obtain ⟨switch, has⟩ := Option.isSome_iff_exists.mp (capable_has h.able)
  have switched := Session.switchSpeed_has has line m.session
  have taken := h.reported
  rw [switched] at taken
  obtain ⟨bs, message, sent⟩ := Session.send_port port taken
  refine ⟨bs, by simpa [Order.message, h.able, has] using message, ?_⟩
  have told : onSession (Session.writable (Session.switchSpeed (some r) line)) m =
      ⟨.ok true, m, (m.session.herald bs ++ [LineEffect.write bs, .flush]).map .line⟩ := by
    rw [onSession_apply, switched, sent]
    rfl
  rw [changeSpeed_granted h.granted read h.able, Act.bind_of told, if_pos rfl,
    adopt_apply port known h.noted h.drained, if_neg (h.accepted e port)]
  simp [delivery]

/-- The session stays as it is, and the local speed does not change. -/
def Steady (m : Monitor) (es : List Effect) (m' : Monitor) : Prop :=
  m'.session = m.session ∧ ∀ n, .line (.baud n) ∉ es

instance : Act.Composes Steady where
  nothing _ := ⟨rfl, by simp⟩
  next := by
    rintro m m' m'' es es' ⟨same, steady⟩ ⟨same', steady'⟩
    exact ⟨same'.trans same, fun n => by simp [steady n, steady' n]⟩

theorem permits_steady : Permits (fun _ => False) Steady where
  complains _ _ _ := ⟨rfl, by simp⟩
  notes _ _ _ := ⟨rfl, by simp⟩
  logs _ _ _ verb := verb.elim
  sends m e _ output := by
    refine ⟨rfl, ?_⟩
    intro n there
    obtain rfl := Effect.line.inj (List.mem_singleton.mp there)
    contradiction
  settles _ _ := ⟨rfl, by simp⟩
  reboots _ := ⟨rfl, by simp⟩
  hooks _ _ _ := ⟨rfl, by simp⟩
  probes _ _ _ _ verb := verb.elim
  recounts _ _ _ verb := verb.elim
  remembers _ _ _ verb := verb.elim
  relines _ _ _ verb := verb.elim
  switches _ _ _ _ verb := verb.elim
  forces _ _ _ _ _ verb := verb.elim
  forgets _ _ verb := verb.elim

theorem Declines.steady {α : Type} {outcome : Outcome Effect Monitor α}
    (h : Declines m outcome) : Steady m outcome.effects outcome.state := by
  cases h with
  | told a text => exact ⟨rfl, by simp⟩
  | stopped mild => exact ⟨rfl, by simp⟩

/-- A change of speed that does not go through changes nothing on this side. -/
theorem changeSpeed_steady (tuned : m.session.Tuned) (h : ∀ r line, ¬ Retunes m arg r line) :
    Obeys Steady m (changeSpeed arg) := by
  by_cases rejected : Rejected m ⟨'s', arg⟩
  · exact (changeSpeed_declines rejected).steady
  obtain ⟨granted, o, ordered⟩ := granted_of_not_rejected rejected
  obtain ⟨r, able⟩ := granted.able .speed rfl
  obtain ⟨e, port, _⟩ := tuned.port
  obtain ⟨line, read, -⟩ := order?_speed.mp ordered
  have known := readLine_known tuned.known read
  have quiet := Session.writable_sends (Session.switchSpeed_sends (some r) line) m.session
  have kept : (onSession (Session.writable (Session.switchSpeed (some r) line)) m).state = m :=
    Prod.ext quiet.1 rfl
  unfold Obeys
  rw [changeSpeed_granted granted read able]
  apply (onSession_obeys permits_steady granted.serial quiet).bind_same kept
  intro taken reported
  cases taken with
  | false => exact complain_obeys permits_steady (by simp [Desk.Unmatched]) m
  | true =>
    rw [if_pos rfl]
    unfold Obeys
    cases noted : (announce speedNote m).value with
    | error e =>
      have stopped : adopt line m = ⟨.error e, (announce speedNote m).state, []⟩ :=
        Act.bind_error noted
      rw [stopped]
      exact ⟨rfl, by simp⟩
    | ok u =>
      cases drained : m.session.undrained? with
      | some e =>
        rw [adopt_undrained noted drained]
        exact ⟨rfl, by simp⟩
      | none =>
        rw [adopt_apply port known noted drained]
        by_cases refused : line.baud ∈ e.refused
        · rw [if_pos refused]
          exact ⟨rfl, by simp⟩
        · exfalso
          have accepted : ∀ e ∈ m.session.port?, line.baud ∉ e.refused := by
            rw [port]
            rintro _ ⟨⟩
            exact refused
          exact h r line ⟨granted.serial, granted.known (by simp), readLine_iff.mp read, able,
            reported, noted, drained, accepted⟩

/-- The speed changes with a change of speed that goes through, or not at all. -/
theorem changeSpeed_tuned (tuned : m.session.Tuned) :
    (changeSpeed arg m).state.session.Tuned := by
  by_cases h : ∃ r line, Retunes m arg r line
  · obtain ⟨r, line, h⟩ := h
    obtain ⟨bs, _, made⟩ := changeSpeed_retunes tuned h
    have known := readLine_known tuned.known (readLine_iff.mpr h.requested)
    obtain ⟨e, port, _⟩ := tuned.port
    rw [made]
    exact ⟨⟨{ e with line }, Session.port?_map (fun _ => rfl) port, rfl⟩, known⟩
  · have steady := changeSpeed_steady tuned fun r line retunes => h ⟨r, line, retunes⟩
    rw [steady.1]
    exact tuned

theorem consulted_steady (m : Monitor) (line : List Char) : Steady m (m.consulted line) m := by
  refine ⟨rfl, ?_⟩
  intro n there
  have idle := consulted_idle line _ there
  contradiction

section

variable {typed : String} (builtIn : ∀ h ∈ m.desk.active, h ∈ Registry.builtIn)
  (read : Command.read? typed = some ⟨'s', arg⟩)
include builtIn read

theorem execute_retunes (tuned : m.session.Tuned) (h : Retunes m arg r line) :
    ∃ bs before, (Order.speed line).message m = .ok (some bs) ∧
      (execute typed m).state.session = retuned m.session line ∧
      (execute typed m).effects = before ++ delivery bs line.baud ∧
      ∀ n, .line (.baud n) ∉ before := by
  obtain ⟨bs, message, made⟩ := changeSpeed_retunes tuned h
  have passed := passed_of_builtIn builtIn read (by simp)
  have done := execute_done read passed rfl (show (changeSpeed arg m).value = .ok () by rw [made])
  refine ⟨bs, m.consulted (Command.withoutLineEnd typed.toList) ++
    (m.session.herald bs).map .line, message, ?_, ?_, ?_⟩
  · rw [done, made]
    rfl
  · rw [done, made, List.append_assoc]
  · intro n there
    obtain told | heralded := List.mem_append.mp there
    · exact (consulted_steady m _).2 n told
    · obtain ⟨e, there, same⟩ := List.mem_map.mp heralded
      obtain rfl := Effect.line.inj same
      unfold Session.herald at there
      split at there <;> simp at there

theorem execute_steady (tuned : m.session.Tuned) (h : ∀ r line, ¬ Retunes m arg r line) :
    Obeys Steady m (execute typed) := by
  have performed : Obeys Steady m (perform ⟨'s', arg⟩) :=
    (changeSpeed_steady tuned h).bind fun _ _ => Act.obeys_pure _
  exact execute_obeys_passed permits_steady read (passed_of_builtIn builtIn read (by simp))
    performed

end

end GnssMonitor.Monitor
