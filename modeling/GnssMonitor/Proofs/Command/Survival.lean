import GnssMonitor.Proofs.Command.Execution
import GnssMonitor.Proofs.Session.Operating

/-! No command is fatal: what goes wrong with the receiver, the line or the log is put to the
operator. -/

namespace GnssMonitor

open Act (Survives)

namespace Logbook

theorem writeRefusal?_survivable {bs : Bytes} {l : Logbook} {e : Fault}
    (h : l.writeRefusal? bs = some e) : Monitor.isSurvivable e = true := by
  have refused : ∀ e, l.storage.writeRefusal.map Fault.storage = some e →
      Monitor.isSurvivable e = true := by
    intro e h
    obtain ⟨reason, _, rfl⟩ := Option.map_eq_some_iff.mp h
    rfl
  unfold writeRefusal? at h
  split at h
  · contradiction
  · obtain rfl := Option.some.inj h
    rfl
  · split at h
    · obtain rfl := Option.some.inj h
      rfl
    · exact refused e h
  · exact refused e h
  · exact refused e h

theorem write_error {bs : Bytes} {l : Logbook} {e : Fault} (h : (l.write bs).1 = .error e) :
    Monitor.isSurvivable e = true := by
  unfold write at h
  cases refusal : l.writeRefusal? bs with
  | none => simp [refusal] at h
  | some e' =>
    simp only [refusal, Except.error.injEq] at h
    exact h ▸ writeRefusal?_survivable refusal

theorem close_error {l : Logbook} {e : Fault} (h : l.close.1 = .error e) :
    Monitor.isSurvivable e = true := by
  unfold close at h
  split at h
  · obtain rfl := Except.error.inj h
    rfl
  · contradiction

end Logbook

namespace Desk

theorem openLog_error {path : String} {mode : OpenMode} {d : Desk} {e : Fault}
    (h : (openLog path mode d).value = .error e) : Monitor.isSurvivable e = true := by
  unfold openLog at h
  cases closed : (closeLog d).value with
  | error e' =>
    rw [Act.bind_error closed] at h
    obtain rfl := Except.error.inj h
    exact Logbook.close_error closed
  | ok u =>
    rw [Act.bind_ok closed] at h
    split at h
    · obtain rfl := Except.error.inj h
      rfl
    · contradiction

end Desk

namespace Monitor

/-- The session stays operable, and what stops the action is put to the operator. -/
abbrev Copes {α : Type} (x : Do α) : Prop :=
  Survives (·.session.Operable) (isSurvivable · = true) x

theorem onSession_copes {α : Type} {x : Session.Do α} (copes : Session.Copes x) :
    Copes (onSession x) :=
  fun m operable => copes m.session operable

theorem modifySession_copes {f : Session → Session} (kept : ∀ s, s.Operable → (f s).Operable) :
    Copes (onSession (modify f)) := onSession_copes (Act.survives_modify kept)

theorem onDesk_copes {α : Type} {x : Desk.Do α}
    (mild : ∀ d e, (x d).value = .error e → isSurvivable e = true) : Copes (onDesk x) :=
  fun m operable => ⟨operable, mild m.desk⟩

theorem modifyDesk_copes (f : Desk → Desk) : Copes (modifyDesk f) :=
  Act.survives_modify fun _ operable => operable

theorem complain_copes (text : String) : Copes (complain text) :=
  onDesk_copes fun _ _ h => nomatch h

theorem announce_copes (text : String) : Copes (announce text) :=
  onDesk_copes fun _ _ h => Logbook.write_error h

theorem permit_copes (missing : Option String) : Copes (permit missing) := by
  apply Act.survives_get_bind
  intro m _
  have gate : Copes (do
      if m.session.source.isSerial then return true
      complain "Only available in low-level mode."
      return false) := by
    apply Act.survives_ite
    · intro _
      exact Act.survives_pure true
    · intro _
      exact (complain_copes _).bind fun _ => Act.survives_pure false
  cases missing with
  | none => exact gate
  | some text =>
    refine Act.survives_ite (fun _ => ?_) fun _ => gate
    exact (complain_copes text).bind fun _ => Act.survives_pure false

theorem chosen_copes (c : Capability) (what : String) : Copes (chosen c what) := by
  apply Act.survives_get_bind
  intro m _
  apply Act.survives_ite
  · intro _
    exact Act.survives_pure _
  · intro _
    exact (complain_copes _).bind fun _ => Act.survives_pure none

theorem settle_copes : Copes settle :=
  (onSession_copes Session.drain_copes).bind fun _ => Act.survives_emit _

theorem permitted_copes {missing : Option String} {α : Type} {f : Bool → Do α}
    (refused : Copes (f false)) (allowed : Copes (f true)) : Copes (permit missing >>= f) := by
  apply (permit_copes missing).bind
  intro answer
  cases answer with
  | false => exact refused
  | true => exact allowed

/-- Where a command lacks what it needs, that was said already and nothing else is done. -/
theorem given_copes {α : Type} {x : Do (Option α)} {f : Option α → Do Unit} (asked : Copes x)
    (lacking : f none = pure ()) (given : ∀ a, Copes (f (some a))) : Copes (x >>= f) := by
  apply asked.bind
  intro answer
  cases answer with
  | none => exact lacking ▸ Act.survives_pure ()
  | some a => exact given a

theorem changeRate_copes (arg : String) : Copes (changeRate arg) := by
  apply permitted_copes (Act.survives_pure ())
  cases (Text.readNumber arg.toList).filter (·.isFinite) with
  | none => exact complain_copes _
  | some rate =>
    apply given_copes (chosen_copes _ _) rfl
    intro r
    apply (onSession_copes (Session.writable_copes (Session.switchRate_copes _ _))).bind
    intro taken
    exact Act.survives_ite (fun _ => announce_copes _) fun _ => complain_copes _

theorem toggleProbing_copes (arg : String) : Copes (toggleProbing arg) := by
  apply permitted_copes (Act.survives_pure ())
  apply Act.survives_get_bind
  intro m _
  have probing : ∀ readonly, Copes (onSession (modify fun s => { s with readonly })) :=
    fun readonly => modifySession_copes fun _ operable => ⟨operable.connected, operable.line⟩
  have restarted : Copes (onSession (modify fun s => { s with framer.count := 0 })) :=
    modifySession_copes fun _ operable => ⟨operable.connected, operable.line⟩
  apply (probing _).bind
  intro _
  apply (announce_copes _).bind
  intro _
  exact Act.survives_ite (fun _ => restarted) fun _ => Act.survives_pure ()

theorem openLog_copes (arg : String) : Copes (openLog arg) := by
  have closed : Copes (onDesk Desk.closeLog) := onDesk_copes fun _ _ h => Logbook.close_error h
  have opened : Copes (onDesk (Desk.openLog arg .appending)) :=
    onDesk_copes fun _ _ h => Desk.openLog_error h
  apply closed.bind
  intro _
  refine Act.survives_ite (fun _ => Act.survives_pure ()) fun _ => opened.bind fun there => ?_
  exact Act.survives_ite (fun _ => complain_copes _) fun _ => Act.survives_pure ()

theorem changeMode_copes (arg : String) : Copes (changeMode arg) := by
  apply Act.survives_get_bind
  intro m _
  apply permitted_copes (Act.survives_pure ())
  apply given_copes (chosen_copes _ _) rfl
  intro r
  apply (announce_copes _).bind
  intro _
  apply (onSession_copes (Session.writable_copes (Session.switchMode_copes _ _))).bind
  intro taken
  refine Act.survives_ite (fun _ => ?_) fun _ => complain_copes _
  apply settle_copes.bind
  intro _
  exact Act.survives_ite (fun _ => modifyDesk_copes _) fun _ => Act.survives_pure ()

/-- A framing that could be read is one that a port knows. -/
theorem readFraming_known {cs : List Char} {wordLength stopBits : Int} {parity : String}
    (h : readFraming cs = .ok (wordLength, parity, stopBits)) :
    wordLength ∈ [7, 8] ∧ parity ∈ ["N", "O", "E"] ∧ stopBits ∈ [1, 2] := by
  unfold readFraming at h
  dsimp only at h
  split at h
  · contradiction
  · split at h
    · contradiction
    · split at h
      · contradiction
      · rename_i parities _
        have spoken : cs.getD 1 ' ' ∈ ['N', 'O', 'E'] := Decidable.not_not.mp parities
        simp only [Except.ok.injEq, Prod.mk.injEq] at h
        obtain ⟨rfl, rfl, rfl⟩ := h
        refine ⟨?_, ?_, ?_⟩
        · split <;> simp
        · revert spoken
          generalize cs.getD 1 ' ' = c
          simp only [List.mem_cons, List.not_mem_nil, or_false]
          rintro (rfl | rfl | rfl) <;> decide
        · split <;> simp

theorem withSpeed_known {head : List Char} {framed line : LineSettings} (known : framed.Known)
    (h : withSpeed head framed = .ok (.ok line)) : line.Known := by
  unfold withSpeed at h
  cases said : readSpeed head with
  | none =>
    rw [said] at h
    contradiction
  | some speed =>
    rw [said] at h
    cases speed with
    | error e => simp [Except.map] at h
    | ok baud =>
      simp only [Except.map, Except.ok.injEq] at h
      obtain rfl := h
      exact ⟨known.wordLength, known.parity, known.stopBits⟩

theorem readLine_known {present line : LineSettings} {arg : List Char} (known : present.Known)
    (h : readLine present arg = .ok (.ok line)) : line.Known := by
  obtain plain | ⟨framing, ⟨text, _, failed⟩ | ⟨_, _, _, read, framed⟩⟩ :=
    readLine_cases present arg
  · exact withSpeed_known known (plain.symm.trans h)
  · rw [failed] at h
    contradiction
  · obtain ⟨length, sort, stops⟩ := readFraming_known read
    exact withSpeed_known ⟨length, sort, stops⟩ (framed.symm.trans h)

theorem changeSpeed_copes (arg : String) : Copes (changeSpeed arg) := by
  apply permitted_copes (Act.survives_pure ())
  apply Act.survives_get_bind
  intro m operable
  cases read : readLine m.session.line arg.toList with
  | error text => exact complain_copes _
  | ok line =>
    cases line with
    | error e => exact Act.survives_throw rfl
    | ok line =>
      have known := readLine_known operable.line read
      apply given_copes (chosen_copes _ _) rfl
      intro r
      apply (onSession_copes (Session.writable_copes (Session.switchSpeed_copes _ _))).bind
      intro taken
      refine Act.survives_ite (fun _ => ?_) fun _ => complain_copes _
      apply (announce_copes _).bind
      intro _
      apply settle_copes.bind
      intro _
      exact onSession_copes (Session.setLine_copes known)

theorem forceReceiver_copes (arg : String) : Copes (forceReceiver arg) := by
  apply permitted_copes (Act.survives_pure ())
  simp only [Bool.not_true, Bool.false_eq_true, if_false]
  refine Act.survives_ite (fun _ => Act.survives_pure ()) fun _ => ?_
  split
  · exact complain_copes _
  · rename_i r _
    have switched : ∀ s, Copes (onDesk (Desk.switchTo r s)) := by
      intro s
      apply onDesk_copes
      intro d e stopped
      rw [Desk.switchTo_value] at stopped
      contradiction
    apply Act.survives_get_bind
    intro m _
    apply (switched _).bind
    intro there
    refine Act.survives_ite (fun _ => ?_) fun _ => Act.survives_pure ()
    apply (onSession_copes (Session.switchReceiver_copes _)).bind
    intro _
    exact modifyDesk_copes _
  · exact complain_copes _

theorem hexArgument_copes (arg : String) : Copes (hexArgument arg) := by
  unfold hexArgument
  cases Hex.read arg with
  | ok payload => exact Act.survives_pure _
  | error e => exact (complain_copes _).bind fun _ => Act.survives_pure none

theorem sendControl_copes (arg : String) : Copes (sendControl arg) := by
  apply permitted_copes (Act.survives_pure ())
  apply given_copes (hexArgument_copes arg) rfl
  intro payload
  apply Act.survives_get_bind
  intro m _
  dsimp only
  split
  · exact complain_copes _
  · apply (onSession_copes (Session.writable_copes (Session.sendControl_copes _ _))).bind
    intro count
    exact Act.survives_ite (fun _ => complain_copes _) fun _ => Act.survives_pure ()

theorem sendRaw_copes (arg : String) : Copes (sendRaw arg) := by
  apply permitted_copes (Act.survives_pure ())
  apply given_copes (hexArgument_copes arg) rfl
  intro payload
  apply (onSession_copes (Session.write_copes payload)).bind
  intro count
  exact Act.survives_ite (fun _ => complain_copes _) fun _ => Act.survives_pure ()

theorem perform_copes (c : Command) : Copes (perform c) := by
  obtain ⟨v, argument⟩ := c
  unfold perform
  dsimp only
  split
  · exact (changeRate_copes _).bind fun _ => Act.survives_pure _
  · exact (toggleProbing_copes _).bind fun _ => Act.survives_pure _
  · exact (openLog_copes _).bind fun _ => Act.survives_pure _
  · exact (changeMode_copes _).bind fun _ => Act.survives_pure _
  · exact Act.survives_pure _
  · exact (changeSpeed_copes _).bind fun _ => Act.survives_pure _
  · exact (forceReceiver_copes _).bind fun _ => Act.survives_pure _
  · exact (sendControl_copes _).bind fun _ => Act.survives_pure _
  · exact (sendRaw_copes _).bind fun _ => Act.survives_pure _
  · exact (complain_copes _).bind fun _ => Act.survives_pure _

theorem sendSentences_copes (sentences : List String) : Copes (sendSentences sentences) := by
  induction sentences with
  | nil => exact Act.survives_pure ()
  | cons sentence rest ih =>
    exact (onSession_copes (Session.monitorControl_copes _)).bind fun _ => ih

theorem setUpAshtech_copes (speedCode : Nat) (extra : List String) :
    Copes (setUpAshtech speedCode extra) := by
  apply (sendSentences_copes _).bind
  intro _
  apply (sendSentences_copes _).bind
  intro _
  apply (Act.survives_emit _).bind
  intro _
  exact (sendSentences_copes _).bind fun _ => sendSentences_copes extra

theorem ashtechCommand_copes (line : List Char) : Copes (ashtechCommand line) := by
  unfold ashtechCommand
  split
  · exact (setUpAshtech_copes _ _).bind fun _ => Act.survives_pure _
  · exact (setUpAshtech_copes _ _).bind fun _ => Act.survives_pure _
  · exact Act.survives_pure _

theorem tryPrivately_copes (h : Handler) (line : List Char) : Copes (tryPrivately h line) := by
  unfold tryPrivately
  split
  · exact ashtechCommand_copes line
  · exact Act.survives_pure _
  · exact Act.survives_pure _

theorem privateCommand_copes (line : List Char) : Copes (privateCommand line) := by
  apply Act.survives_get_bind
  intro m _
  split
  · exact Act.survives_pure _
  · rename_i h _
    refine Act.survives_ite (fun _ => ?_) fun _ => tryPrivately_copes h line
    exact (Act.survives_emit _).bind fun _ => tryPrivately_copes h line

theorem dispatch_copes (c : Command) (line : List Char) : Copes (dispatch c line) := by
  apply (privateCommand_copes line).bind
  intro status
  cases status with
  | terminate | matched => exact Act.survives_pure _
  | unknown => exact perform_copes c

theorem execute_copes (line : String) : Copes (execute line) := by
  unfold execute
  cases Command.read? line with
  | none => exact Act.survives_pure _
  | some c =>
    apply (dispatch_copes c _).caught
    intro e mild
    rw [recover, if_pos mild]
    exact (complain_copes _).bind fun _ => Act.survives_pure _

theorem presentation_builtIn : ∀ h ∈ Registry.builtIn,
    (∃ private?, h.presentation = .panel private?) ∨ h.presentation = .hooks {} := by
  simp [Registry.builtIn, Handler.panelFor]

theorem tryPrivately_builtIn {h : Handler} (builtIn : h ∈ Registry.builtIn) (line : List Char) :
    tryPrivately h line = ashtechCommand line ∨
      tryPrivately h line = (pure .unknown : Do CommandStatus) := by
  unfold tryPrivately
  obtain ⟨private?, shown⟩ | shown := presentation_builtIn h builtIn
  · rw [shown]
    cases private? with
    | true => exact .inl rfl
    | false => exact .inr rfl
  · rw [shown]
    exact .inr rfl

/-- Only lines that begin with N or R are private commands. -/
theorem ashtechCommand_other {line : List Char} (other : line.head? ≠ some 'N' ∧
    line.head? ≠ some 'R') : ashtechCommand line = pure .unknown := by
  unfold ashtechCommand
  split
  · simp at other
  · simp at other
  · rfl

theorem ashtechCommand_ne_terminate (line : List Char) (m : Monitor) :
    (ashtechCommand line m).value ≠ .ok .terminate := by
  intro h
  unfold ashtechCommand at h
  split at h
  · obtain ⟨_, _, h⟩ := Act.bind_value_ok.mp h
    cases h
  · obtain ⟨_, _, h⟩ := Act.bind_value_ok.mp h
    cases h
  · cases h

/-- The built-in handlers pass over the lines that are none of theirs. -/
theorem privateCommand_other {m : Monitor} (builtIn : ∀ h ∈ m.desk.active, h ∈ Registry.builtIn)
    {line : List Char} (other : line.head? ≠ some 'N' ∧ line.head? ≠ some 'R') :
    ∃ es, privateCommand line m = ⟨.ok .unknown, m, es⟩ := by
  unfold privateCommand
  rw [Act.get_bind]
  cases active : m.desk.active with
  | none => exact ⟨[], rfl⟩
  | some h =>
    have passed : tryPrivately h line = pure .unknown := by
      obtain tried | tried := tryPrivately_builtIn (builtIn h active) line
      · rw [tried, ashtechCommand_other other]
      · exact tried
    dsimp only
    by_cases told : h.isPrivate = true
    · rw [if_pos told, Act.emit_bind, passed]
      exact ⟨_, rfl⟩
    · rw [if_neg told, passed]
      exact ⟨_, rfl⟩

theorem privateCommand_ne_terminate {m : Monitor}
    (builtIn : ∀ h ∈ m.desk.active, h ∈ Registry.builtIn) (line : List Char) :
    (privateCommand line m).value ≠ .ok .terminate := by
  intro h
  have goes_on : ∀ h ∈ Registry.builtIn, ∀ m : Monitor,
      (tryPrivately h line m).value ≠ .ok .terminate := by
    intro h known m ends
    obtain tried | tried := tryPrivately_builtIn known line
    · rw [tried] at ends
      exact ashtechCommand_ne_terminate line m ends
    · rw [tried] at ends
      cases ends
  unfold privateCommand at h
  rw [Act.get_bind] at h
  cases active : m.desk.active with
  | none =>
    rw [active] at h
    cases h
  | some handler =>
    rw [active] at h
    dsimp only at h
    split at h
    · obtain ⟨_, _, ends⟩ := Act.bind_value_ok.mp h
      exact goes_on handler (builtIn handler active) _ ends
    · exact goes_on handler (builtIn handler active) _ h

theorem perform_proceeds {c : Command} (other : c.verb ≠ 'q') {m : Monitor}
    {result : CommandResult} (h : (perform c m).value = .ok result) : result = .proceed := by
  obtain ⟨v, argument⟩ := c
  have proceeds : ∀ x : Do Unit,
      ((do x; return .proceed : Do CommandResult) m).value = .ok result → result = .proceed := by
    intro x h
    obtain ⟨_, _, h⟩ := Act.bind_value_ok.mp h
    cases h
    rfl
  unfold perform at h
  dsimp only at h
  split at h
  · exact proceeds _ h
  · exact proceeds _ h
  · exact proceeds _ h
  · exact proceeds _ h
  · contradiction
  · exact proceeds _ h
  · exact proceeds _ h
  · exact proceeds _ h
  · exact proceeds _ h
  · exact proceeds _ h

theorem read?_line {line : String} {c : Command} (read : Command.read? line = some c) :
    ∃ rest, Command.withoutLineEnd line.toList = c.verb :: rest := by
  unfold Command.read? at read
  split at read
  · contradiction
  · rename_i verb rest typed
    obtain rfl := Option.some.inj read
    exact ⟨rest, typed⟩

/-- What a command comes to, if it is carried out. -/
def resultOf (line : String) : CommandResult :=
  if (Command.read? line).any (·.verb = 'q') then .quit else .proceed

theorem dispatch_proceeds {m : Monitor} (builtIn : ∀ h ∈ m.desk.active, h ∈ Registry.builtIn)
    {c : Command} (other : c.verb ≠ 'q') {line : List Char} {result : CommandResult}
    (h : (dispatch c line m).value = .ok result) : result = .proceed := by
  obtain ⟨status, tried, h⟩ := Act.bind_value_ok.mp h
  cases status with
  | terminate => exact absurd tried (privateCommand_ne_terminate builtIn line)
  | matched =>
    cases h
    rfl
  | unknown => exact perform_proceeds other h

theorem dispatch_quits {m : Monitor} (builtIn : ∀ h ∈ m.desk.active, h ∈ Registry.builtIn)
    {c : Command} (verb : c.verb = 'q') {rest : List Char} :
    (dispatch c (c.verb :: rest) m).value = .ok .quit := by
  have other : (c.verb :: rest).head? ≠ some 'N' ∧ (c.verb :: rest).head? ≠ some 'R' := by
    simp [verb]
  obtain ⟨es, passed⟩ := privateCommand_other builtIn other
  unfold dispatch
  rw [Act.bind_ok (by rw [passed])]
  simp only [perform, verb]
  rfl

/-- **No command is fatal.** -/
theorem execute_answers {m : Monitor} (operable : m.session.Operable)
    (builtIn : ∀ h ∈ m.desk.active, h ∈ Registry.builtIn) (line : String) :
    (execute line m).value = .ok (resultOf line) := by
  unfold execute resultOf
  cases read : Command.read? line with
  | none => rfl
  | some c =>
    obtain ⟨rest, typed⟩ := read?_line read
    have mild := (dispatch_copes c (c.verb :: rest) m operable).2
    dsimp only
    rw [typed]
    by_cases verb : c.verb = 'q'
    · rw [Act.tryCatch_ok (dispatch_quits builtIn verb)]
      simp [verb]
    · cases dispatched : (dispatch c (c.verb :: rest) m).value with
      | ok result =>
        obtain rfl := dispatch_proceeds builtIn verb dispatched
        rw [Act.tryCatch_ok dispatched]
        simp [verb]
      | error e =>
        rw [Act.tryCatch_error dispatched, recover, if_pos (mild e dispatched)]
        simp [verb]
        rfl

end Monitor
end GnssMonitor
