import GnssMonitor.Command.Execution
import GnssMonitor.Proofs.Desk.Logging
import GnssMonitor.Proofs.Desk.Switching
import GnssMonitor.Proofs.Session.Sending

/-! What the operator's commands do. Each verb has its own part of the state to change, and the
device is left alone unless the line to it is a serial one. -/

namespace GnssMonitor.Monitor

open Act (Obeys Composes)
open Desk (Unmatched)

/-- The relation allows whatever commands with these verbs do. -/
structure Permits (verbs : Char → Prop) (T : Monitor → List Effect → Monitor → Prop) : Prop where
  complains (m : Monitor) {text : String} (other : ¬ Unmatched (.complain text)) :
    T m [.complain text] m
  notes (s : Session) (d : Desk) (bs : Bytes) :
    T (s, d) [] (s, { d with log := (d.log.write bs).2 })
  logs (s : Session) (d : Desk) (log : Logbook) (verb : verbs 'l') :
    T (s, d) [] (s, { d with log })
  sends (m : Monitor) {e : LineEffect} (serial : m.session.source.isSerial = true)
    (output : Session.isOutput e = true) : T m [.line e] m
  settles (m : Monitor) (serial : m.session.source.isSerial = true) : T m [.pause .settle] m
  reboots (m : Monitor) : T m [.pause .reboot] m
  hooks (m : Monitor) (name line : String) : T m [.hook name (.command line)] m
  probes (s : Session) (d : Desk) (readonly : Bool) (serial : s.source.isSerial = true)
    (verb : verbs 'i') : T (s, d) [] ({ s with readonly }, d)
  recounts (s : Session) (d : Desk) (serial : s.source.isSerial = true) (verb : verbs 'i') :
    T (s, d) [] ({ s with framer.count := 0 }, d)
  remembers (s : Session) (d : Desk) (r : Receiver) (verb : verbs 'n') :
    T (s, d) [] (s, { d with fallback := some r })
  relines (m : Monitor) (line : LineSettings) (serial : m.session.source.isSerial = true)
    (verb : verbs 's') : Obeys T m (onSession (Session.setLine line))
  switches (m : Monitor) {r : Receiver} (known : r ∈ Receiver.all)
    (serial : m.session.source.isSerial = true) (verb : verbs 't') :
    Obeys T m (onDesk (Desk.switchTo r m.session))
  forces (s : Session) (d : Desk) {r : Receiver} (known : r ∈ Receiver.all)
    (serial : s.source.isSerial = true) (verb : verbs 't') :
    T (s, d) [] ({ s with device := some r }, d)
  forgets (s : Session) (d : Desk) (verb : verbs 't') : T (s, d) [] (s, { d with fallback := none })

section

variable {verbs : Char → Prop} {T : Monitor → List Effect → Monitor → Prop}

theorem complain_obeys (p : Permits verbs T) {text : String}
    (other : ¬ Unmatched (.complain text)) (m : Monitor) : Obeys T m (complain text) :=
  p.complains m other

theorem onDesk_logs (p : Permits verbs T) (verb : verbs 'l') {α : Type} {x : Desk.Do α}
    {m : Monitor} (quiet : Obeys Desk.OnlyLogs m.desk x) : Obeys T m (onDesk x) := by
  obtain ⟨⟨log, same⟩, silent⟩ := quiet
  have kept : (onDesk x m).state = (m.1, { m.2 with log }) := Prod.ext rfl same
  have nothing : (onDesk x m).effects = [] := by
    unfold onDesk
    rw [Act.within_apply]
    exact congrArg (List.map id) silent
  unfold Obeys
  rw [kept, nothing]
  exact p.logs m.1 m.2 log verb

theorem announce_obeys (p : Permits verbs T) (text : String) (m : Monitor) :
    Obeys T m (announce text) :=
  p.notes m.1 m.2 _

variable [Composes T]

/-- What is sent on a serial line is no more than that. -/
theorem onSession_obeys (p : Permits verbs T) {α : Type} {x : Session.Do α} {m : Monitor}
    (serial : m.session.source.isSerial = true)
    (quiet : Obeys Session.OnlySends m.session x) : Obeys T m (onSession x) := by
  obtain ⟨same, output⟩ := quiet
  have kept : (onSession x m).state = m := Prod.ext same rfl
  unfold Obeys
  rw [kept]
  refine Composes.each fun e he => ?_
  obtain ⟨e', he', rfl⟩ := List.mem_map.mp he
  exact p.sends m serial (output e' he')

theorem permit_state (missing : Option String) (m : Monitor) :
    (permit missing m).state = m := by
  unfold permit
  simp only [Act.get_bind]
  cases missing <;> cases m.session.device.isNone <;> cases m.session.source.isSerial <;> rfl

/-- Commands to the device go on only with a serial line. -/
theorem serial_of_permit {missing : Option String} {m : Monitor}
    (h : (permit missing m).value = .ok true) : m.session.source.isSerial = true := by
  unfold permit at h
  simp only [Act.get_bind] at h
  cases serial : m.session.source.isSerial with
  | true => rfl
  | false =>
    rw [serial] at h
    revert h
    cases missing <;> cases m.session.device.isNone <;> exact Except.ok.inj

theorem permit_obeys (p : Permits verbs T) {missing : Option String}
    (other : ∀ text ∈ missing, ¬ Unmatched (.complain text)) (m : Monitor) :
    Obeys T m (permit missing) := by
  have gate : Obeys T m (do
      if m.session.source.isSerial then return true
      complain "Only available in low-level mode."
      return false) := by
    split
    · exact Act.obeys_pure true
    · exact (complain_obeys p (by simp [Unmatched]) m).bind fun _ _ => Act.obeys_pure false
  refine .get_bind ?_
  cases missing with
  | none => exact gate
  | some text =>
    dsimp only
    split
    · exact (complain_obeys p (other text rfl) m).bind fun _ _ => Act.obeys_pure false
    · exact gate

/-- What is done once a command is permitted. -/
theorem Permits.bind_permit (p : Permits verbs T) {missing : Option String}
    (other : ∀ text ∈ missing, ¬ Unmatched (.complain text)) {m : Monitor} {α : Type}
    {f : Bool → Do α} (refused : Obeys T m (f false))
    (permitted : m.session.source.isSerial = true → Obeys T m (f true)) :
    Obeys T m (permit missing >>= f) := by
  refine (permit_obeys p other m).bind_same (permit_state missing m) fun answer h => ?_
  cases answer with
  | false => exact refused
  | true => exact permitted (serial_of_permit h)

theorem chosen_state (c : Capability) (what : String) (m : Monitor) :
    (chosen c what m).state = m := by
  unfold chosen
  simp only [Act.get_bind]
  split <;> rfl

theorem chosen_obeys (p : Permits verbs T) (c : Capability) (what : String) (m : Monitor) :
    Obeys T m (chosen c what) := by
  refine .get_bind ?_
  dsimp only
  split
  · exact Act.obeys_pure _
  · refine (complain_obeys p ?_ m).bind fun _ _ => Act.obeys_pure none
    simp [Unmatched, toString]

/-- What is done once the receiver is known to be capable of it. -/
theorem Permits.bind_chosen (p : Permits verbs T) {c : Capability} {what : String} {m : Monitor}
    {f : Option Receiver → Do Unit} (lacking : f none = pure ())
    (capable : ∀ r, Obeys T m (f (some r))) : Obeys T m (chosen c what >>= f) := by
  refine (chosen_obeys p c what m).bind_same (chosen_state c what m) fun answer _ => ?_
  cases answer with
  | none => exact lacking ▸ Act.obeys_pure ()
  | some r => exact capable r

theorem settle_state (m : Monitor) : (settle m).state = m := by
  have kept : (onSession Session.drain m).state = m := Prod.ext (Session.drain_sends m.1).1 rfl
  unfold settle
  cases drained : (onSession Session.drain m).value with
  | error e => rw [Act.bind_error drained, kept]
  | ok u =>
    rw [Act.bind_ok drained, kept]
    rfl

theorem settle_obeys (p : Permits verbs T) {m : Monitor}
    (serial : m.session.source.isSerial = true) : Obeys T m settle := by
  have kept : (onSession Session.drain m).state = m := Prod.ext (Session.drain_sends m.1).1 rfl
  refine (onSession_obeys p serial (Session.drain_sends _)).bind_same kept fun _ _ => ?_
  exact p.settles m serial

/-- What is said and done when the receiver was asked to be reconfigured. -/
theorem Permits.bind_writable (p : Permits verbs T) {α β : Type} {x : Session.Do α} {m : Monitor}
    (serial : m.session.source.isSerial = true) (quiet : ∀ s, Obeys Session.OnlySends s x)
    {f : α → Do β} (hf : ∀ a, Obeys T m (f a)) :
    Obeys T m (onSession (Session.writable x) >>= f) := by
  have quiet' := Session.writable_sends quiet m.session
  have kept : (onSession (Session.writable x) m).state = m := Prod.ext quiet'.1 rfl
  exact (onSession_obeys p serial quiet').bind_same kept fun a _ => hf a

/-- Of the session at most the endpoint and its settings are others once the line is set. -/
theorem setLine_state (line : LineSettings) (m : Monitor) : ∃ endpoint line',
    (onSession (Session.setLine line) m).state =
      ({ m.session with endpoint, line := line' }, m.desk) := by
  obtain ⟨endpoint, line', relined⟩ := Session.setLine_relines line m.session
  exact ⟨endpoint, line', Prod.ext relined rfl⟩

theorem changeRate_obeys (p : Permits verbs T) (arg : String) (m : Monitor) :
    Obeys T m (changeRate arg) := by
  refine p.bind_permit (by simp [noDevice, Unmatched]) (Act.obeys_pure ()) fun serial => ?_
  cases (Text.readNumber arg.toList).filter (·.isFinite) with
  | none => exact complain_obeys p (by simp [Unmatched, toString]) m
  | some rate =>
    refine p.bind_chosen rfl fun r => ?_
    refine p.bind_writable serial (Session.switchRate_sends _ _) fun taken => ?_
    cases taken with
    | true => exact announce_obeys p _ m
    | false => exact complain_obeys p (by simp [Unmatched]) m

theorem changeMode_obeys (p : Permits verbs T) (verb : verbs 'n') (arg : String) (m : Monitor) :
    Obeys T m (changeMode arg) := by
  refine .get_bind ?_
  refine p.bind_permit (by simp [noDevice, Unmatched]) (Act.obeys_pure ()) fun serial => ?_
  refine p.bind_chosen rfl fun r => ?_
  refine (announce_obeys p _ m).bind fun _ _ => ?_
  refine p.bind_writable (m := (announce _ m).state) serial (Session.switchMode_sends _ _)
    fun taken => ?_
  cases taken with
  | true =>
    refine (settle_obeys p (m := (announce _ m).state) serial).bind fun _ _ => ?_
    exact Act.obeys_ite (fun _ => p.remembers _ _ r verb) fun _ => Act.obeys_pure ()
  | false => exact complain_obeys p (by simp [Unmatched]) _

theorem toggleProbing_obeys (p : Permits verbs T) (verb : verbs 'i') (arg : String) (m : Monitor) :
    Obeys T m (toggleProbing arg) := by
  refine p.bind_permit (by simp [Unmatched]) (Act.obeys_pure ()) fun serial => .get_bind ?_
  have probing : ∀ readonly, Obeys T m (onSession (modify fun s => { s with readonly })) :=
    fun readonly => p.probes m.1 m.2 readonly serial verb
  refine (probing _).bind fun _ _ => (announce_obeys p _ _).bind fun _ _ => ?_
  exact Act.obeys_ite (fun _ => p.recounts _ _ serial verb) fun _ => Act.obeys_pure ()

theorem openLog_obeys (p : Permits verbs T) (verb : verbs 'l') (arg : String) (m : Monitor) :
    Obeys T m (openLog arg) := by
  have shut : Obeys T m (onDesk Desk.closeLog) := onDesk_logs p verb (Desk.closeLog_logs _)
  refine shut.bind fun _ _ => Act.obeys_ite (fun _ => Act.obeys_pure ()) fun _ => ?_
  refine (onDesk_logs p verb (Desk.openLog_logs arg .appending _)).bind fun opened _ => ?_
  refine Act.obeys_ite (fun _ => ?_) fun _ => Act.obeys_pure ()
  exact complain_obeys p (by simp [Unmatched, toString]) _

theorem readFraming_error {cs : List Char} {text : String} (h : readFraming cs = .error text) :
    ¬ Unmatched (.complain text) := by
  unfold readFraming at h
  dsimp only at h
  split at h
  · obtain rfl := Except.error.inj h
    simp [Unmatched]
  · split at h
    · obtain rfl := Except.error.inj h
      simp [Unmatched, toString]
    · split at h
      · obtain rfl := Except.error.inj h
        simp [Unmatched]
      · contradiction

/-- Settings with the speed that has been asked for. -/
def withSpeed (head : List Char) (framed : LineSettings) :
    Except String (Except Text.IntegerFault LineSettings) :=
  match readSpeed head with
  | none => .error s!"Invalid speed '{String.ofList head}'"
  | some speed => .ok (speed.map fun baud => { framed with baud })

/-- The framing is the present one, or it is read, which may fail. -/
theorem readLine_cases (present : LineSettings) (arg : List Char) :
    readLine present arg = withSpeed (arg.takeWhile (!isColon ·)) present ∨
      ∃ framing, (∃ text, readFraming framing = .error text ∧ readLine present arg = .error text) ∨
        ∃ wordLength parity stopBits, readFraming framing = .ok (wordLength, parity, stopBits) ∧
          readLine present arg = withSpeed (arg.takeWhile (!isColon ·))
            { present with wordLength, parity, stopBits } := by
  unfold readLine
  cases arg.dropWhile (!isColon ·) with
  | nil => exact .inl rfl
  | cons c framing =>
    refine .inr ⟨framing, ?_⟩
    cases read : readFraming framing with
    | error text => exact .inl ⟨text, rfl, by simp only [read]; rfl⟩
    | ok framed =>
      obtain ⟨wordLength, parity, stopBits⟩ := framed
      exact .inr ⟨wordLength, parity, stopBits, rfl, by simp only [read]; rfl⟩

theorem withSpeed_error {head : List Char} {framed : LineSettings} {text : String}
    (h : withSpeed head framed = .error text) : ¬ Unmatched (.complain text) := by
  unfold withSpeed at h
  cases said : readSpeed head with
  | none =>
    rw [said] at h
    obtain rfl := Except.error.inj h
    simp [Unmatched, toString]
  | some speed =>
    rw [said] at h
    contradiction

theorem readLine_error {present : LineSettings} {arg : List Char} {text : String}
    (h : readLine present arg = .error text) : ¬ Unmatched (.complain text) := by
  obtain plain | ⟨framing, ⟨text', read, failed⟩ | ⟨_, _, _, _, framed⟩⟩ :=
    readLine_cases present arg
  · exact withSpeed_error (plain.symm.trans h)
  · obtain rfl := Except.error.inj (failed.symm.trans h)
    exact readFraming_error read
  · exact withSpeed_error (framed.symm.trans h)

theorem changeSpeed_obeys (p : Permits verbs T) (verb : verbs 's') (arg : String) (m : Monitor) :
    Obeys T m (changeSpeed arg) := by
  refine p.bind_permit (by simp [noDevice, Unmatched]) (Act.obeys_pure ()) fun serial => ?_
  refine .get_bind ?_
  split
  · rename_i text refused
    exact complain_obeys p (readLine_error refused) m
  · refine (Act.obeys_lift _).bind_same rfl fun line _ => ?_
    refine p.bind_chosen rfl fun r => ?_
    refine p.bind_writable serial (Session.switchSpeed_sends _ _) fun taken => ?_
    cases taken with
    | true =>
      refine (announce_obeys p _ m).bind fun _ _ => ?_
      refine (settle_obeys p (m := (announce _ m).state) serial).bind_same (settle_state _)
        fun _ _ => ?_
      exact p.relines _ line serial verb
    | false => exact complain_obeys p (by simp [Unmatched]) m

theorem switchReceiver_obeys (p : Permits verbs T) (verb : verbs 't') (name : String) {m : Monitor}
    (serial : m.session.source.isSerial = true) :
    Obeys T m (onSession (Session.switchReceiver name)) := by
  unfold onSession Session.onSession Session.switchReceiver
  cases found : Receiver.find? name with
  | none => exact Composes.nothing m
  | some r => exact p.forces m.1 m.2 (List.mem_of_find?_eq_some found) serial verb

theorem forceReceiver_obeys (p : Permits verbs T) (verb : verbs 't') (arg : String) (m : Monitor) :
    Obeys T m (forceReceiver arg) := by
  refine p.bind_permit (by simp) (Act.obeys_pure ()) fun serial => ?_
  simp only [Bool.not_true, Bool.false_eq_true, if_false]
  split
  · exact Act.obeys_pure ()
  · split
    · exact complain_obeys p (by simp [Unmatched, toString]) m
    · rename_i r only
      have known : r ∈ Receiver.all := by
        have kept : r ∈ [r] := List.mem_singleton_self r
        rw [← only] at kept
        exact (List.mem_filter.mp kept).1
      refine .get_bind ((p.switches m known serial verb).bind fun changed _ => ?_)
      cases changed with
      | false => exact Act.obeys_pure ()
      | true =>
        have still : (onDesk (Desk.switchTo r m.session) m).state.session.source.isSerial = true :=
          serial
        refine (switchReceiver_obeys p verb r.name still).bind fun _ _ => ?_
        exact p.forgets _ _ verb
    · exact complain_obeys p (by simp [Unmatched, toString]) m

theorem hexArgument_state (arg : String) (m : Monitor) : (hexArgument arg m).state = m := by
  unfold hexArgument
  cases Hex.read arg <;> rfl

theorem hexArgument_obeys (p : Permits verbs T) (arg : String) (m : Monitor) :
    Obeys T m (hexArgument arg) := by
  unfold hexArgument
  cases Hex.read arg with
  | ok payload => exact Act.obeys_pure _
  | error e =>
    refine (complain_obeys p ?_ m).bind fun _ _ => Act.obeys_pure none
    simp [Unmatched, toString]

/-- What is done with the bytes that a command names. -/
theorem Permits.bind_hexArgument (p : Permits verbs T) {arg : String} {m : Monitor}
    {f : Option Bytes → Do Unit} (lacking : f none = pure ())
    (named : ∀ payload, Obeys T m (f (some payload))) : Obeys T m (hexArgument arg >>= f) := by
  refine (hexArgument_obeys p arg m).bind_same (hexArgument_state arg m) fun answer _ => ?_
  cases answer with
  | none => exact lacking ▸ Act.obeys_pure ()
  | some payload => exact named payload

theorem sendControl_obeys (p : Permits verbs T) (arg : String) (m : Monitor) :
    Obeys T m (sendControl arg) := by
  refine p.bind_permit (by simp [noDevice, Unmatched]) (Act.obeys_pure ()) fun serial => ?_
  refine p.bind_hexArgument rfl fun payload => ?_
  refine .get_bind ?_
  dsimp only
  split
  · exact complain_obeys p (by simp [Unmatched, toString]) m
  · refine p.bind_writable serial (Session.sendControl_sends _ _) fun count => ?_
    refine Act.obeys_ite (fun _ => ?_) fun _ => Act.obeys_pure ()
    exact complain_obeys p (by simp [Unmatched]) m

theorem sendRaw_obeys (p : Permits verbs T) (arg : String) (m : Monitor) :
    Obeys T m (sendRaw arg) := by
  refine p.bind_permit (by simp) (Act.obeys_pure ()) fun serial => ?_
  refine p.bind_hexArgument rfl fun payload => ?_
  refine (onSession_obeys p serial (Session.write_sends payload _)).bind fun count _ => ?_
  refine Act.obeys_ite (fun _ => ?_) fun _ => Act.obeys_pure ()
  exact complain_obeys p (by simp [Unmatched]) _

theorem perform_obeys (p : Permits verbs T) {c : Command} (verb : verbs c.verb) (m : Monitor) :
    Obeys T m (perform c) := by
  obtain ⟨v, argument⟩ := c
  unfold perform
  dsimp only
  split
  · exact (changeRate_obeys p _ m).bind fun _ _ => Act.obeys_pure _
  · exact (toggleProbing_obeys p verb _ m).bind fun _ _ => Act.obeys_pure _
  · exact (openLog_obeys p verb _ m).bind fun _ _ => Act.obeys_pure _
  · exact (changeMode_obeys p verb _ m).bind fun _ _ => Act.obeys_pure _
  · exact Act.obeys_pure _
  · exact (changeSpeed_obeys p verb _ m).bind fun _ _ => Act.obeys_pure _
  · exact (forceReceiver_obeys p verb _ m).bind fun _ _ => Act.obeys_pure _
  · exact (sendControl_obeys p _ m).bind fun _ _ => Act.obeys_pure _
  · exact (sendRaw_obeys p _ m).bind fun _ _ => Act.obeys_pure _
  · refine (complain_obeys p ?_ m).bind fun _ _ => Act.obeys_pure _
    simp [Unmatched, toString]

/-- A relayed session takes no control messages. -/
theorem monitorControl_obeys (p : Permits verbs T) (payload : Bytes) (m : Monitor) :
    Obeys T m (onSession (Session.monitorControl payload)) := by
  cases serial : m.session.source.isSerial with
  | true => exact onSession_obeys p serial (Session.monitorControl_sends payload _)
  | false =>
    have refused : Session.monitorControl payload m.session = ⟨.ok false, m.session, []⟩ := by
      unfold Session.monitorControl
      simp [serial]
    unfold Obeys onSession Session.onSession
    rw [Act.within_apply]
    exact refused ▸ Composes.nothing m

theorem sendSentences_obeys (p : Permits verbs T) (sentences : List String) (m : Monitor) :
    Obeys T m (sendSentences sentences) := by
  induction sentences generalizing m with
  | nil => exact Act.obeys_pure ()
  | cons sentence rest ih => exact (monitorControl_obeys p _ m).bind fun _ _ => ih _

theorem setUpAshtech_obeys (p : Permits verbs T) (speedCode : Nat) (extra : List String)
    (m : Monitor) : Obeys T m (setUpAshtech speedCode extra) := by
  refine (sendSentences_obeys p _ m).bind fun _ _ => ?_
  refine (sendSentences_obeys p _ _).bind fun _ _ => ?_
  refine Obeys.bind (p.reboots _) fun _ _ => ?_
  exact (sendSentences_obeys p _ _).bind fun _ _ => sendSentences_obeys p extra _

theorem ashtechCommand_obeys (p : Permits verbs T) (line : List Char) (m : Monitor) :
    Obeys T m (ashtechCommand line) := by
  unfold ashtechCommand
  split
  · exact (setUpAshtech_obeys p _ _ m).bind fun _ _ => Act.obeys_pure _
  · exact (setUpAshtech_obeys p _ _ m).bind fun _ _ => Act.obeys_pure _
  · exact Act.obeys_pure _

theorem tryPrivately_obeys (p : Permits verbs T) (h : Handler) (line : List Char) (m : Monitor) :
    Obeys T m (tryPrivately h line) := by
  unfold tryPrivately
  split
  · exact ashtechCommand_obeys p line m
  · exact Act.obeys_pure _
  · exact Act.obeys_pure _

theorem privateCommand_obeys (p : Permits verbs T) (line : List Char) (m : Monitor) :
    Obeys T m (privateCommand line) := by
  refine .get_bind ?_
  split
  · exact Act.obeys_pure _
  · rename_i h _
    refine Act.obeys_ite (fun _ => ?_) fun _ => tryPrivately_obeys p h line m
    exact Obeys.bind (p.hooks m _ _) fun _ _ => tryPrivately_obeys p h line _

theorem recover_obeys (p : Permits verbs T) (c : Command) (e : Fault) (m : Monitor) :
    Obeys T m (recover c e) := by
  refine Act.obeys_ite (fun _ => ?_) fun _ => Act.obeys_throw e
  refine (complain_obeys p ?_ m).bind fun _ _ => Act.obeys_pure _
  simp [Unmatched, toString]

/-- What is known of the command is known of the whole line. -/
theorem execute_performs (p : Permits verbs T) {line : String}
    (performs : ∀ c ∈ Command.read? line, ∀ m, Obeys T m (perform c)) (m : Monitor) :
    Obeys T m (execute line) := by
  unfold execute
  split
  · exact Act.obeys_pure _
  · rename_i c read
    have dispatched : Obeys T m (dispatch c (Command.withoutLineEnd line.toList)) := by
      refine (privateCommand_obeys p _ m).bind fun status _ => ?_
      cases status with
      | terminate | matched => exact Act.obeys_pure _
      | unknown => exact performs c read _
    exact dispatched.caught fun e _ => recover_obeys p c e _

/-- **What one line does.** Whatever the operator types, what comes of it is what its verb may
do, and no one is told that there is no handler. -/
theorem execute_obeys (p : Permits verbs T) {line : String}
    (verb : ∀ c ∈ Command.read? line, verbs c.verb) (m : Monitor) : Obeys T m (execute line) :=
  execute_performs p (fun c read m => perform_obeys p (verb c read) m) m

end
end GnssMonitor.Monitor
