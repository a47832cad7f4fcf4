import GnssMonitor.Proofs.Monitor.Relayed

/-! What a run on a relay writes from its beginning on: it asks once at most for the packets it
wants, and then only listens. -/

namespace GnssMonitor.Run

open Act (Obeys)

/-- The run is about to listen to the source, a relay. -/
structure Begun (source : Source) (r : Run) : Prop where
  listening : r.monitor.Relayed
  origin : r.monitor.session.source = source

/-- The run is on its way to listen to the source, and nothing is written. -/
abbrev Begins (source : Source) : Run → List RunEffect → Run → Prop :=
  Act.Keeps (Begun source) (written? · = none)

variable {α : Type} {source : Source}

theorem openLog_begins (o : Options) (r : Run) : Obeys (Begins source) r (openLog o) := by
  unfold openLog
  cases o.logPath? with
  | none => exact Act.obeys_pure true
  | some path =>
    intro begun
    have logged := (Desk.openLog_logs path .truncating r.monitor.desk).keepsOff
    obtain ⟨listening, silent⟩ := onDesk_hushes logged begun.listening
    refine ⟨⟨listening, ?_⟩, silent⟩
    rw [onMonitor_monitor]
    exact begun.origin

theorem openSource_begins (w : Surroundings) (r : Run) :
    Obeys (Begins source) r (openSource w) := by
  refine .get_bind ?_
  cases r.monitor.session.opening with
  | error e => exact Act.obeys_pure false
  | ok opening =>
    have opened : Obeys (Begins source) r (Act.emit (.opening opening)) :=
      fun begun => ⟨begun, by simp [written?]⟩
    refine opened.bind fun _ _ => Act.obeys_ite (fun _ => Act.obeys_pure false) fun _ => ?_
    intro begun
    refine ⟨⟨⟨begun.listening.relayed, rfl⟩, begun.origin⟩, ?_⟩
    simp [modifySession]

/-- What is asked of a relay when a run begins. -/
def IsWatch (o : Options) (bs : Bytes) : Prop :=
  Text.encodeAscii (Session.watchRequest o.sentencesOnly (Source.ofArgument o.source).device) =
    .ok bs

/-- A relay is only listened to, once it has been told at most what to send. -/
def Asks (o : Options) (r : Run) (x : Do α) : Prop :=
  (x r).state.monitor.Relayed ∧ (written (x r).effects = [] ∨
    ∃ bs, IsWatch o bs ∧ written (x r).effects = [bs])

theorem Begun.asks {o : Options} {r : Run} {x : Do α} (begun : Begun source r)
    (begins : Obeys (Begins source) r x) : Asks o r x := by
  obtain ⟨begun', silent⟩ := begins begun
  exact ⟨begun'.listening, .inl (written_eq_nil.mpr silent)⟩

theorem Begun.bind {β : Type} {o : Options} {r : Run} {x : Do α} {f : α → Do β}
    (begun : Begun source r) (begins : Obeys (Begins source) r x)
    (rest : ∀ a r', Begun source r' → Asks o r' (f a)) : Asks o r (x >>= f) := by
  obtain ⟨begun', silent⟩ := begins begun
  have silent := written_eq_nil.mpr silent
  unfold Asks
  cases answered : (x r).value with
  | error e =>
    rw [Act.bind_error answered]
    exact ⟨begun'.listening, .inl silent⟩
  | ok a =>
    rw [Act.bind_ok answered, written_append, silent, List.nil_append]
    exact rest a _ begun'

theorem Asks.bind {β : Type} {o : Options} {r : Run} {x : Do α} {f : α → Do β}
    (asked : Asks o r x) (rest : ∀ a r', Obeys Hushes r' (f a)) : Asks o r (x >>= f) := by
  obtain ⟨listening, sent⟩ := asked
  unfold Asks
  cases answered : (x r).value with
  | error e =>
    rw [Act.bind_error answered]
    exact ⟨listening, sent⟩
  | ok a =>
    obtain ⟨listening', silent⟩ := rest a _ listening
    rw [Act.bind_ok answered, written_append, written_eq_nil.mpr silent, List.append_nil]
    exact ⟨listening', sent⟩

theorem sendWatch_asks (o : Options) {r : Run} (listening : r.monitor.Relayed) :
    Asks o r (onMonitor {} (Monitor.onSession
      (Session.sendWatch o.sentencesOnly (Source.ofArgument o.source).device))) := by
  obtain ⟨same, sent⟩ := Session.sendWatch_cases o.sentencesOnly
    (Source.ofArgument o.source).device r.monitor.session
  obtain ⟨r', shown⟩ : ∃ r', (onMonitor {} (Monitor.onSession (Session.sendWatch o.sentencesOnly
      (Source.ofArgument o.source).device)) r).effects = (performAll {}
        ((Session.sendWatch o.sentencesOnly (Source.ofArgument o.source).device
          r.monitor.session).effects.map .line) r').effects := ⟨_, rfl⟩
  constructor
  · have kept : (Monitor.onSession (Session.sendWatch o.sentencesOnly
        (Source.ofArgument o.source).device) r.monitor).state = r.monitor := Prod.ext same rfl
    rw [onMonitor_monitor, kept]
    exact listening
  · rw [shown]
    obtain silent | ⟨bs, encoded, sent⟩ := sent
    · left
      rw [silent]
      rfl
    · right
      refine ⟨bs, encoded, ?_⟩
      rw [sent]
      rfl

theorem prepare_asks (o : Options) {r : Run} (begun : Begun (Source.ofArgument o.source) r) :
    Asks o r (prepare o) := by
  have relayed : (Source.ofArgument o.source).isSerial = false :=
    begun.origin ▸ begun.listening.relayed
  have begins : prepare o r = (onMonitor {} (Monitor.onSession
      (Session.sendWatch o.sentencesOnly (Source.ofArgument o.source).device)) >>= fun _ =>
        modifySession fun s => { s with readonly := true }) r := by
    unfold prepare
    simp only [Act.get_bind, begun.origin, relayed]
    rfl
  unfold Asks
  rw [begins]
  apply (sendWatch_asks o begun.listening).bind
  intro _ r' listening
  exact ⟨⟨listening.relayed, rfl⟩, by simp [modifySession]⟩

theorem launch_asks (w : Surroundings) (o : Options) {r : Run}
    (begun : Begun (Source.ofArgument o.source) r) : Asks o r (launch w o) := by
  have told : ∀ text r', Obeys (Begins (Source.ofArgument o.source)) r' (Act.emit (.err text)) :=
    fun text r' begun => ⟨begun, by simp [written?]⟩
  apply begun.bind (openLog_begins o r)
  intro logging r' begun
  cases logging with
  | false => exact begun.asks ((told _ r').bind fun _ _ => Act.obeys_pure _)
  | true =>
    apply begun.bind (openSource_begins w r')
    intro there r' begun
    cases there with
    | false =>
      have shut : Obeys Hushes r' (closeLog >>= fun _ => pure (some 1)) := by
        refine (onDesk_hushes (Desk.closeLog_logs _).keepsOff).bind fun _ _ => Act.obeys_pure _
      obtain ⟨listening, silent⟩ := shut begun.listening
      exact ⟨listening, .inl (written_eq_nil.mpr silent)⟩
    | true => exact (prepare_asks o begun).bind fun _ _ => Act.obeys_pure none

/-- **What a relay is told.** A whole run on a relay writes the watch request or nothing at
all. -/
theorem relay_written (w : Surroundings) (o : Options) (fallback : Option Receiver)
    (script : List Occurrence) (relayed : (Source.ofArgument o.source).isSerial = false) :
    let r := monitorSource w o script (initial w o fallback)
    written r.effects = [] ∨ ∃ bs, IsWatch o bs ∧ written r.effects = [bs] := by
  have begun : Begun (Source.ofArgument o.source) (initial w o fallback) :=
    ⟨⟨relayed, rfl⟩, rfl⟩
  have asks : Asks o (initial w o fallback) (monitorSource w o script) := by
    apply (launch_asks w o begun).bind
    intro code r
    cases code with
    | some code => exact Act.obeys_pure code
    | none => exact conduct_hushes script r
  exact asks.2

end GnssMonitor.Run
