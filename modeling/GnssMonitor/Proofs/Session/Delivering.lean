import GnssMonitor.Proofs.Session.Sending

/-! What comes of a message: it goes out once, unless the endpoint fails, and on a port it is flushed
at once. -/

namespace GnssMonitor.Session

open Act (Blind)

/-- The bytes written, if the effect is a write. -/
def written? : LineEffect → Option Bytes
  | .write bs => some bs
  | _ => none

/-- All that is written to the endpoint, in order. -/
def writes (es : List LineEffect) : List Bytes := es.filterMap written?

@[simp] theorem writes_append (es es' : List LineEffect) :
    writes (es ++ es') = writes es ++ writes es' := List.filterMap_append

/-- What is written goes out. -/
def takes (s : Session) : Bool := s.endpoint.any (·.delivery ≠ .failing)

/-- What announces a write on an observed session. -/
def herald (s : Session) (bs : Bytes) : List LineEffect := if s.observed then [.observed bs] else []

@[simp] theorem writes_herald (s : Session) (bs : Bytes) : writes (s.herald bs) = [] := by
  unfold herald
  split <;> rfl

variable {s : Session} {bs : Bytes}

/-- What a write does to an endpoint, and what it answers. -/
theorem write_apply (bs : Bytes) {e : Endpoint} (present : s.endpoint = some e) :
    write bs s = match e.delivery, e.medium with
      | .failing, _ => ⟨.ok (-1), s, s.herald bs⟩
      | .full, .port => ⟨.ok bs.length, s, s.herald bs ++ [.write bs, .flush]⟩
      | .short, .port => ⟨.ok (bs.length - 1), s, s.herald bs ++ [.write bs, .flush]⟩
      | .unflushed, .port => ⟨.ok (-1), s, s.herald bs ++ [.write bs]⟩
      | _, .socket => ⟨.ok bs.length, s, s.herald bs ++ [.write bs]⟩ := by
  unfold write herald
  rw [Act.get_bind, present]
  obtain ⟨medium, _, _, delivery, _, _, _⟩ := e
  cases s.observed <;> cases medium <;> cases delivery <;> rfl

/-- Bytes go out once or not at all. -/
theorem write_writes (bs : Bytes) (s : Session) :
    writes (write bs s).effects = if s.takes then [bs] else [] := by
  unfold takes
  cases present : s.endpoint with
  | none =>
    unfold write
    rw [Act.get_bind, present]
    cases s.observed <;> rfl
  | some e =>
    rw [write_apply bs present]
    obtain ⟨medium, _, _, delivery, _, _, _⟩ := e
    cases medium <;> cases delivery <;> simp <;> rfl

/-- Nothing goes out but by an endpoint that takes it. -/
theorem write_positive {n : Int} (answered : (write bs s).value = .ok n) (positive : 0 < n) :
    s.takes = true := by
  cases present : s.endpoint with
  | none =>
    unfold write at answered
    rw [Act.get_bind, present] at answered
    cases observed : s.observed <;> rw [observed] at answered <;> contradiction
  | some e =>
    rw [write_apply bs present] at answered
    unfold takes
    rw [present, Option.any_some, decide_eq_true_eq]
    intro failing
    rw [failing] at answered
    obtain rfl := Except.ok.inj answered
    contradiction

/-- Bytes of which some went out on a port have been written and flushed. -/
theorem write_port {e : Endpoint} (port : s.port? = some e) {n : Int}
    (answered : (write bs s).value = .ok n) (positive : 0 < n) :
    (write bs s).effects = s.herald bs ++ [.write bs, .flush] := by
  obtain ⟨present, medium⟩ := Option.filter_eq_some_iff.mp port
  rw [write_apply bs present] at answered ⊢
  obtain ⟨medium, _, _, delivery, _, _, _⟩ := e
  obtain rfl := of_decide_eq_true medium
  cases delivery with
  | failing | unflushed =>
    obtain rfl := Except.ok.inj answered
    contradiction
  | full | short => rfl

/-- What sending a message comes to. -/
theorem send_apply (message : Except Fault (Option Bytes)) (s : Session) :
    send message s = match message with
      | .error e => ⟨.error e, s, []⟩
      | .ok none => ⟨.ok false, s, []⟩
      | .ok (some bs) => ⟨(write bs s).value.map (decide <| 0 < ·), s, (write bs s).effects⟩ := by
  match message with
  | .error e => rfl
  | .ok none => rfl
  | .ok (some bs) =>
    have sent : send (.ok (some bs)) s = (write bs >>= fun n => pure (decide (0 < n)) : Do Bool) s :=
      rfl
    rw [sent, Act.bind_pure_map, (write_sends bs s).1]

theorem writes_send (message : Except Fault (Option Bytes)) (s : Session) :
    writes (send message s).effects = if s.takes then message.toOption.join.toList else [] := by
  rw [send_apply]
  match message with
  | .error e => exact (ite_self []).symm
  | .ok none => exact (ite_self []).symm
  | .ok (some bs) => exact write_writes bs s

variable {message : Except Fault (Option Bytes)}

/-- A message was taken when some of it went out. -/
theorem send_true (taken : (send message s).value = .ok true) :
    ∃ bs n, message = .ok (some bs) ∧ (write bs s).value = .ok n ∧ 0 < n := by
  rw [send_apply] at taken
  match message with
  | .error e => contradiction
  | .ok none => cases Except.ok.inj taken
  | .ok (some bs) =>
    cases answered : (write bs s).value with
    | error e =>
      simp only [answered] at taken
      contradiction
    | ok n =>
      simp only [answered] at taken
      exact ⟨bs, n, rfl, answered, of_decide_eq_true (Except.ok.inj taken)⟩

/-- A message that was taken has been written, and nothing else has. -/
theorem send_taken (taken : (send message s).value = .ok true) :
    ∃ bs, message = .ok (some bs) ∧ writes (send message s).effects = [bs] := by
  obtain ⟨bs, n, rfl, answered, positive⟩ := send_true taken
  refine ⟨bs, rfl, ?_⟩
  rw [writes_send, if_pos (write_positive answered positive)]
  rfl

/-- A message that was taken on a port has been written and flushed. -/
theorem send_port {e : Endpoint} (port : s.port? = some e)
    (taken : (send message s).value = .ok true) :
    ∃ bs, message = .ok (some bs) ∧
      send message s = ⟨.ok true, s, s.herald bs ++ [.write bs, .flush]⟩ := by
  obtain ⟨bs, n, rfl, answered, positive⟩ := send_true taken
  refine ⟨bs, rfl, ?_⟩
  rw [send_apply]
  dsimp only
  rw [answered, write_port port answered positive, Except.map, decide_eq_true positive]

theorem writes_eq_nil {es : List LineEffect} : writes es = [] ↔ ∀ e ∈ es, written? e = none :=
  List.filterMap_eq_nil_iff

theorem writes_setLine (line : LineSettings) (s : Session) :
    writes (setLine line s).effects = [] := by
  apply writes_eq_nil.mpr
  intro e there
  obtain rfl := setLine_bauds line s e there
  rfl

/-- The session, as if it might write unasked or might not. -/
def withPolicy (readonly : Bool) (s : Session) : Session := { s with readonly }

/-- What is sent has nothing to do with whether the session may write unasked. -/
abbrev Outspoken {α : Type} (x : Do α) : Prop := ∀ readonly, Blind (withPolicy readonly) x

theorem write_outspoken (bs : Bytes) : Outspoken (write bs) := by
  intro readonly s
  unfold Act.Mirrors write
  obtain ⟨_, endpoint, _, _, _, _, _, _, _, _, observed⟩ := s
  cases observed <;> cases endpoint with
  | none => rfl
  | some e =>
    obtain ⟨medium, _, _, delivery, _, _, _⟩ := e
    cases medium <;> cases delivery <;> rfl

theorem send_outspoken (message : Except Fault (Option Bytes)) : Outspoken (send message) := by
  intro readonly
  refine (Act.blind_lift message).bind fun bs => ?_
  cases bs with
  | none => exact Act.blind_pure false
  | some bs => exact (write_outspoken bs readonly).bind fun n => Act.blind_pure _

theorem switchMode_outspoken (r : Option Receiver) (mode : Int) :
    Outspoken (switchMode r mode) := by
  intro readonly
  unfold switchMode
  cases r.bind (·.modeSwitch) with
  | none => exact Act.blind_throw _
  | some m => exact Act.blind_get_bind (fun _ => rfl) fun s => send_outspoken _ readonly

theorem switchSpeed_outspoken (r : Option Receiver) (line : LineSettings) :
    Outspoken (switchSpeed r line) := by
  intro readonly
  unfold switchSpeed
  cases r.bind (·.speedSwitch) with
  | none => exact Act.blind_throw _
  | some m => exact Act.blind_get_bind (fun _ => rfl) fun s => send_outspoken _ readonly

theorem switchRate_outspoken (r : Option Receiver) (rate : Binary64) :
    Outspoken (switchRate r rate) := by
  intro readonly
  unfold switchRate
  cases r.bind (·.rateSwitch) with
  | none => exact Act.blind_throw _
  | some m => exact send_outspoken _ readonly

theorem sendControl_outspoken (r : Option Receiver) (payload : Bytes) :
    Outspoken (sendControl r payload) := by
  intro readonly
  unfold sendControl
  cases r.bind (·.control) with
  | none => exact Act.blind_throw _
  | some c => exact (Act.blind_lift _).bind fun bs => write_outspoken bs readonly

/-- What is sent for the operator is what would be sent anyway. -/
theorem writable_apply {α : Type} {x : Do α} (outspoken : Outspoken x)
    (quiet : ∀ s, Act.Obeys OnlySends s x) (s : Session) : writable x s = x s := by
  have same := outspoken false s
  have kept := (quiet s).1
  unfold Act.Mirrors withPolicy at same
  unfold writable
  rw [same]
  rcases done : x s with ⟨answer, s', es⟩
  rw [done] at kept
  obtain rfl : s' = s := kept
  rfl

variable {r : Receiver}

theorem switchMode_has {switch : ModeSwitch} (has : r.modeSwitch = some switch) (mode : Int)
    (s : Session) : writable (switchMode (some r) mode) s =
      send (switch.message s.line.baud mode) s := by
  rw [writable_apply (switchMode_outspoken _ _) (switchMode_sends _ _), switchMode,
    Option.bind_some, has]
  rfl

theorem switchSpeed_has {switch : SpeedSwitch} (has : r.speedSwitch = some switch)
    (line : LineSettings) (s : Session) : writable (switchSpeed (some r) line) s =
      send (switch.message s.framer.kind line) s := by
  rw [writable_apply (switchSpeed_outspoken _ _) (switchSpeed_sends _ _), switchSpeed,
    Option.bind_some, has]
  rfl

theorem switchRate_has {switch : RateSwitch} (has : r.rateSwitch = some switch)
    (rate : Binary64) (s : Session) : writable (switchRate (some r) rate) s =
      send (switch.message rate) s := by
  rw [writable_apply (switchRate_outspoken _ _) (switchRate_sends _ _), switchRate,
    Option.bind_some, has]

theorem sendControl_has {framing : ControlFraming} (has : r.control = some framing)
    (payload : Bytes) (s : Session) : writable (sendControl (some r) payload) s =
      (Act.lift (framing.message payload) >>= write : Do Int) s := by
  rw [writable_apply (sendControl_outspoken _ _) (sendControl_sends _ _), sendControl,
    Option.bind_some, has]

end GnssMonitor.Session
