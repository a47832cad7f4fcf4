import GnssMonitor.Proofs.Monitor.WatchRequest

/-! Before the display starts: the log and the source are opened and a relay is asked for its
packets. -/

namespace GnssMonitor.Run

open Act (Obeys)

/-- What is done before the display starts. -/
def isPreparation : RunEffect → Bool
  | .opening _ | .line (.write _) | .out _ | .err _ => true
  | _ => false

/-- The display is not touched yet. -/
def Prepares (r : Run) (es : List RunEffect) (r' : Run) : Prop :=
  r'.display = r.display ∧ ∀ e ∈ es, isPreparation e = true

instance : Act.Composes Prepares where
  nothing _ := ⟨rfl, by simp⟩
  next := fun ⟨same, first⟩ ⟨same', second⟩ =>
    ⟨same'.trans same, List.forall_mem_append.mpr ⟨first, second⟩⟩

theorem emit_prepares {e : RunEffect} (early : isPreparation e = true) (r : Run) :
    Obeys Prepares r (Act.emit e) := by
  simp [Obeys, Prepares, early]

theorem modifySession_prepares (f : Session → Session) (r : Run) :
    Obeys Prepares r (modifySession f) := by
  simp [Obeys, Prepares, modifySession]

variable {α : Type}

theorem onMonitor_prepares {x : Monitor.Do α} {r : Run}
    (quiet : (x r.monitor).effects = [] ∨ ∃ bs, (x r.monitor).effects = [.line (.write bs)])
    (typed : Typed) : Obeys Prepares r (onMonitor typed x) := by
  unfold Obeys onMonitor
  rcases quiet with quiet | ⟨bs, written⟩
  · simp [quiet, performAll, Prepares]
  · simp [written, performAll, perform, Prepares, isPreparation]

theorem onDesk_prepares {x : Desk.Do α} {r : Run} (logs : Obeys Desk.OnlyLogs r.monitor.desk x) :
    Obeys Prepares r (onMonitor {} (Monitor.onDesk x)) := by
  refine onMonitor_prepares (.inl ?_) {}
  unfold Monitor.onDesk
  rw [Act.within_apply, List.map_id]
  exact logs.2

theorem openLog_prepares (o : Options) (r : Run) : Obeys Prepares r (openLog o) := by
  unfold openLog
  cases o.logPath? with
  | none => exact Act.obeys_pure true
  | some path => exact onDesk_prepares (Desk.openLog_logs path .truncating _)

theorem closeLog_prepares (r : Run) : Obeys Prepares r closeLog :=
  onDesk_prepares (Desk.closeLog_logs _)

theorem openSource_prepares (w : Surroundings) (r : Run) : Obeys Prepares r (openSource w) := by
  refine .get_bind ?_
  cases r.monitor.session.opening with
  | error e => exact Act.obeys_pure false
  | ok opening =>
    refine (emit_prepares rfl r).bind fun _ _ => ?_
    refine Act.obeys_ite (fun _ => Act.obeys_pure false) fun _ => ?_
    exact (modifySession_prepares _ _).bind fun _ _ => Act.obeys_pure true

theorem prepare_prepares (o : Options) (r : Run) : Obeys Prepares r (prepare o) := by
  refine .get_bind (Act.obeys_ite (fun _ => ?_) fun _ => modifySession_prepares _ _)
  refine Obeys.bind (onMonitor_prepares ?_ {}) fun _ _ => modifySession_prepares _ _
  obtain ⟨_, quiet⟩ := Session.sendWatch_cases o.sentencesOnly r.monitor.session.source.device
    r.monitor.session
  unfold Monitor.onSession Session.onSession
  rw [Act.within_apply]
  rcases quiet with quiet | ⟨bs, _, written⟩
  · exact .inl (congrArg (List.map _) quiet)
  · exact .inr ⟨bs, congrArg (List.map _) written⟩

theorem launch_prepares (w : Surroundings) (o : Options) (r : Run) :
    Obeys Prepares r (launch w o) := by
  refine (openLog_prepares o r).bind fun logging _ => Act.obeys_ite (fun _ => ?_) fun _ => ?_
  · exact (emit_prepares rfl _).bind fun _ _ => Act.obeys_pure _
  · refine (openSource_prepares w _).bind fun there _ => Act.obeys_ite (fun _ => ?_) fun _ => ?_
    · exact (prepare_prepares o _).bind fun _ _ => Act.obeys_pure _
    · exact (closeLog_prepares _).bind fun _ _ => Act.obeys_pure _

/-- The source is open. -/
def IsOpen (r : Run) : Prop := r.monitor.session.endpoint.isSome = true

/-- The source takes the request for its packets, or need not be asked. -/
def Reachable (w : Surroundings) (o : Options) : Prop :=
  (Source.ofArgument o.source).isSerial = true ∨ w.delivery ≠ .failing ∧ ∃ bs, IsWatch o bs

theorem onDesk_session (x : Desk.Do α) (r : Run) :
    (onMonitor {} (Monitor.onDesk x) r).state.monitor.session = r.monitor.session := by
  rw [onMonitor_monitor]
  rfl

theorem openLog_session (o : Options) (r : Run) :
    (openLog o r).state.monitor.session = r.monitor.session := by
  unfold openLog
  cases o.logPath? with
  | none => rfl
  | some path => exact onDesk_session _ r

/-- The session on a source that has just been opened. -/
def justOpened (w : Surroundings) (source : Source) : Session :=
  { Session.opened source with
    endpoint := (Session.opened source).endpoint.map fun e =>
      { e with delivery := w.delivery, drainage := w.drainage, refused := w.refusedSpeeds } }

theorem openSource_cases (w : Surroundings) (r : Run) :
    ((openSource w r).value = .ok false ∧
      (openSource w r).state.monitor.session = r.monitor.session) ∨
    ((openSource w r).value = .ok true ∧
      (openSource w r).state.monitor.session = justOpened w r.monitor.session.source) := by
  unfold openSource
  rw [Act.get_bind]
  cases r.monitor.session.opening with
  | error e => exact .inl ⟨rfl, rfl⟩
  | ok opening =>
    dsimp only
    rw [Act.emit_bind]
    by_cases refused : w.refusal.isSome = true
    · rw [if_pos refused]
      exact .inl ⟨rfl, rfl⟩
    · rw [if_neg refused]
      exact .inr ⟨rfl, rfl⟩

/-- The request is made if it can be. -/
theorem onMonitor_sendWatch (sentencesOnly : Bool) (device : Option String) (r : Run) :
    (onMonitor {} (Monitor.onSession (Session.sendWatch sentencesOnly device)) r).value =
      (Session.sendWatch sentencesOnly device r.monitor.session).value := by
  obtain ⟨_, sent⟩ := Session.sendWatch_cases sentencesOnly device r.monitor.session
  have done : Monitor.onSession (Session.sendWatch sentencesOnly device) r.monitor =
      ⟨_, _, (Session.sendWatch sentencesOnly device r.monitor.session).effects.map .line⟩ := rfl
  obtain silent | ⟨bs, _, sent⟩ := sent
  · rw [silent] at done
    rw [onMonitor_apply done rfl]
    rfl
  · rw [sent] at done
    rw [onMonitor_apply done rfl]
    rfl

theorem prepare_cases {w : Surroundings} {o : Options} {r : Run}
    (opened : r.monitor.session = justOpened w (Source.ofArgument o.source)) :
    (prepare o r).value = .ok () ∧ Reachable w o ∨
      (∃ e, (prepare o r).value = .error e) ∧ ¬ Reachable w o := by
  unfold prepare
  rw [Act.get_bind, opened]
  have source : (justOpened w (Source.ofArgument o.source)).source = Source.ofArgument o.source :=
    rfl
  rw [source]
  by_cases serial : (Source.ofArgument o.source).isSerial = true
  · left
    simp [serial, Reachable, modifySession]
  · have socket : r.monitor.session.endpoint.filter (·.medium = .socket) =
        some
          { medium := .socket, delivery := w.delivery, drainage := w.drainage
            refused := w.refusedSpeeds } := by
      simp [opened, justOpened, Session.opened, serial]
    have asked := Session.sendWatch_ok_iff socket o.sentencesOnly
      (Source.ofArgument o.source).device
    rw [← onMonitor_sendWatch] at asked
    simp only [serial, Bool.not_false, if_true]
    cases sent : (onMonitor {} (Monitor.onSession (Session.sendWatch o.sentencesOnly
        (Source.ofArgument o.source).device)) r).value with
    | error e =>
      right
      rw [Act.bind_error sent]
      refine ⟨⟨e, rfl⟩, ?_⟩
      rintro (serial' | there)
      · exact serial serial'
      · have answered := asked.mpr there
        rw [sent] at answered
        cases answered
    | ok u =>
      left
      rw [Act.bind_ok sent]
      exact ⟨rfl, .inr (asked.mp sent)⟩

/-- A run whose source is open goes on if it reaches it, and stops else. -/
theorem launch_cases {w : Surroundings} {o : Options} {r : Run}
    (closed : r.monitor.session = Session.closed (Source.ofArgument o.source))
    (opened : (launch w o r).state.IsOpen) : (launch w o r).value = .ok none ∧ Reachable w o ∨
      (∃ e, (launch w o r).value = .error e) ∧ ¬ Reachable w o := by
  have still : ∀ r' : Run, r'.monitor.session = r.monitor.session → ¬ r'.IsOpen := by
    intro r' same
    simp [IsOpen, same, closed, Session.closed]
  have logged := openLog_session o r
  unfold launch at opened ⊢
  cases logging : (openLog o r).value with
  | error e =>
    rw [Act.bind_error logging] at opened
    exact absurd opened (still _ logged)
  | ok there =>
    rw [Act.bind_ok logging] at opened ⊢
    cases there with
    | false => exact absurd opened (still _ logged)
    | true =>
      rw [if_neg (by simp)] at opened ⊢
      obtain ⟨refused, same⟩ | ⟨accepted, connected⟩ := openSource_cases w (openLog o r).state
      · rw [Act.bind_ok refused, if_neg (by simp)] at opened
        have shut : ((closeLog >>= fun _ => pure (some 1)) (openSource w (openLog o r).state).state
            ).state.monitor.session = r.monitor.session := by
          rw [Act.bind_pure_const]
          exact (onDesk_session _ _).trans (same.trans logged)
        exact absurd opened (still _ shut)
      · rw [Act.bind_ok accepted, if_pos rfl]
        rw [logged, closed] at connected
        obtain ⟨prepared, reached⟩ | ⟨⟨e, stopped⟩, unreached⟩ := prepare_cases connected
        · rw [Act.bind_ok prepared]
          exact .inl ⟨rfl, reached⟩
        · rw [Act.bind_error stopped]
          exact .inr ⟨⟨e, rfl⟩, unreached⟩

/-- The command line asks to monitor a source, and names the receiver to fall back on if any. -/
structure Invokes (args : List String) (o : Options) (fallback : Option Receiver) : Prop where
  read : Options.read args = .ok o
  debug : o.debug ≠ .bare
  list : o.list = false
  named : namedReceiver o = .ok fallback

theorem Invokes.program {args : List String} {o : Options} {fallback : Option Receiver}
    (invoked : Invokes args o fallback) (w : Surroundings) (script : List Occurrence) :
    program w args script =
      ⟨(monitorSource w o script (initial w o fallback)).value,
        (monitorSource w o script (initial w o fallback)).effects,
        (monitorSource w o script (initial w o fallback)).state.monitor.desk.log.files⟩ := by
  simp [Run.program, withOptions, invoked.read, invoked.debug, invoked.list, invoked.named]

/-- Any other command line is answered with a text or two. -/
theorem program_uninvoked {args : List String} (other : ∀ o fallback, ¬ Invokes args o fallback)
    (w : Surroundings) (script : List Occurrence) :
    ∀ e ∈ (program w args script).effects, isPreparation e = true := by
  unfold program
  cases read : Options.read args with
  | error stop => simp [isPreparation]
  | ok o =>
    unfold withOptions
    by_cases bare : o.debug = .bare
    · simp [bare]
    by_cases list : o.list = true
    · simp [bare, list, isPreparation]
    cases named : namedReceiver o with
    | error e => cases e <;> simp [bare, list, named, Unnamed.ending, isPreparation]
    | ok fallback => exact absurd ⟨read, bare, by simpa using list, named⟩ (other o fallback)

end GnssMonitor.Run
