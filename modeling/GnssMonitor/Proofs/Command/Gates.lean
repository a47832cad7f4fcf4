import GnssMonitor.Proofs.Command.Survival

/-! What a line goes through before a command does anything: the private commands, whether the
command is permitted, and whether there is a receiver that can do what is wanted. -/

namespace GnssMonitor.Monitor

variable {m : Monitor} {c : Command} {α β : Type}

theorem permit_granted {missing : Option String} (serial : m.session.source.isSerial = true)
    (known : missing.isSome → m.session.device.isSome) : permit missing m = ⟨.ok true, m, []⟩ := by
  unfold permit
  rw [Act.get_bind, serial]
  cases missing with
  | none => rfl
  | some text =>
    obtain ⟨r, device⟩ := Option.isSome_iff_exists.mp (known rfl)
    rw [device]
    rfl

theorem permit_refused {missing : Option String}
    (h : m.session.source.isSerial = false ∨ missing.isSome ∧ m.session.device = none) :
    ∃ text, permit missing m = ⟨.ok false, m, [.complain text]⟩ := by
  unfold permit
  rw [Act.get_bind]
  cases missing with
  | none =>
    have relayed : m.session.source.isSerial = false := by simpa using h
    rw [relayed]
    exact ⟨_, rfl⟩
  | some text =>
    cases device : m.session.device with
    | none => exact ⟨text, rfl⟩
    | some r =>
      have relayed : m.session.source.isSerial = false := by simpa [device] using h
      rw [relayed]
      exact ⟨_, rfl⟩

/-- The receiver that carries out what takes the capability, if it is capable of it. Control
messages are for the live one, whichever is remembered. -/
def capable (m : Monitor) (k : Capability) : Option Receiver :=
  let asked := match k with
    | .control => m.session.device
    | k => Receiver.select k m.session.device m.desk.fallback
  asked.filter (·.has k)

theorem capable_has {k : Capability} {r : Receiver} (able : m.capable k = some r) :
    r.has k = true := (Option.filter_eq_some_iff.mp able).2

/-- The name that is given for a receiver that cannot do what is wanted. -/
def nameAsked (m : Monitor) (k : Capability) : String :=
  nameOf (Receiver.select k m.session.device m.desk.fallback)

theorem chosen_apply {k : Capability} (other : k ≠ .control) (what : String) (m : Monitor) :
    chosen k what m = match m.capable k with
      | some r => ⟨.ok (some r), m, []⟩
      | none => ⟨.ok none, m, [.complain s!"Device type {m.nameAsked k} has no {what}"]⟩ := by
  have asked : m.capable k =
      (Receiver.select k m.session.device m.desk.fallback).filter (·.has k) := by
    cases k with
    | control => contradiction
    | _ => rfl
  unfold chosen nameAsked
  rw [Act.get_bind, asked]
  cases Receiver.select k m.session.device m.desk.fallback with
  | none => rfl
  | some r =>
    by_cases has : r.has k = true
    · simp only [Option.any_some, Option.filter_some, has, if_true]
      rfl
    · simp only [Option.any_some, Option.filter_some, has]
      rfl

theorem chosen_capable {k : Capability} {r : Receiver} (able : m.capable k = some r)
    (other : k ≠ .control) (what : String) :
    chosen k what m = ⟨.ok (some r), m, []⟩ := by
  rw [chosen_apply other, able]

theorem hexArgument_apply (arg : String) (m : Monitor) : hexArgument arg m =
    match Hex.read arg with
    | .ok payload => ⟨.ok (some payload), m, []⟩
    | .error e => ⟨.ok none, m, [.complain s!"Invalid hex string ({e.message})"]⟩ := by
  unfold hexArgument
  cases Hex.read arg <;> rfl

theorem hexArgument_read {arg : String} {payload : Bytes} (read : Hex.read arg = .ok payload)
    (m : Monitor) : hexArgument arg m = ⟨.ok (some payload), m, []⟩ := by
  rw [hexArgument_apply, read]

theorem onSession_apply (x : Session.Do α) (m : Monitor) : onSession x m =
    ⟨(x m.session).value, ((x m.session).state, m.desk), (x m.session).effects.map .line⟩ := rfl

/-- The receiver is waited for once output has left; where it does not leave, no more is done. -/
theorem settle_apply (m : Monitor) : settle m = match m.session.undrained? with
    | some e => ⟨.error e, m, []⟩
    | none => ⟨.ok (), m,
        (if m.session.port?.isSome then [.line .flush] else []) ++ [.pause .settle]⟩ := by
  have drained := onSession_apply Session.drain m
  rw [Session.drain_apply] at drained
  unfold settle
  cases stuck : m.session.undrained? with
  | some e =>
    rw [stuck] at drained
    rw [Act.bind_error (by rw [drained]), drained]
    rfl
  | none =>
    rw [stuck] at drained
    rw [Act.bind_of drained]
    cases m.session.port?.isSome <;> rfl

/-- What the active handler is told of a line before its private command looks at it. -/
def consulted (m : Monitor) (line : List Char) : List Effect :=
  m.desk.active.elim [] fun h =>
    if h.isPrivate then [.hook h.name (.command (String.ofList line))] else []

theorem consulted_hooks {line : List Char} {e : Effect} (there : e ∈ m.consulted line) :
    ∃ name, e = .hook name (.command (String.ofList line)) := by
  obtain ⟨h, _, told⟩ : ∃ h, m.desk.active = some h ∧
      e ∈ if h.isPrivate then [Effect.hook h.name (.command (String.ofList line))] else [] := by
    unfold consulted at there
    cases active : m.desk.active with
    | none => simp [active] at there
    | some h => exact ⟨h, rfl, by simpa [active] using there⟩
  split at told
  · exact ⟨h.name, List.mem_singleton.mp told⟩
  · simp at told

theorem ashtechCommand_unknown {line : List Char}
    (passed : (ashtechCommand line m).value = .ok .unknown) :
    ashtechCommand line m = ⟨.ok .unknown, m, []⟩ := by
  have taken : ∀ x : Do Unit,
      ((do x; return .matched : Do CommandStatus) m).value ≠ .ok .unknown := by
    intro x h
    obtain ⟨_, _, h⟩ := Act.bind_value_ok.mp h
    cases h
  by_cases other : line.head? ≠ some 'N' ∧ line.head? ≠ some 'R'
  · rw [ashtechCommand_other other]
    rfl
  · have own : line.head? = some 'N' ∨ line.head? = some 'R' := by
      rwa [Decidable.not_and_iff_not_or_not, Decidable.not_not, Decidable.not_not] at other
    obtain own | own := own
    · obtain ⟨rest, rfl⟩ := List.head?_eq_some_iff.mp own
      exact absurd passed (taken _)
    · obtain ⟨rest, rfl⟩ := List.head?_eq_some_iff.mp own
      exact absurd passed (taken _)

theorem tryPrivately_unknown {h : Handler} {line : List Char}
    (passed : (tryPrivately h line m).value = .ok .unknown) :
    tryPrivately h line m = ⟨.ok .unknown, m, []⟩ := by
  obtain ⟨_, presentation, _, _⟩ := h
  match presentation with
  | .panel true => exact ashtechCommand_unknown passed
  | .panel false => rfl
  | .hooks ⟨_, _, _, none⟩ => rfl
  | .hooks ⟨_, _, _, some table⟩ => exact congrArg (Outcome.mk · m []) passed

/-- A line that no private command takes has only been looked at. -/
theorem privateCommand_unknown {line : List Char}
    (passed : (privateCommand line m).value = .ok .unknown) :
    privateCommand line m = ⟨.ok .unknown, m, m.consulted line⟩ := by
  unfold privateCommand consulted at *
  rw [Act.get_bind] at passed ⊢
  cases active : m.desk.active with
  | none => rfl
  | some h =>
    rw [active] at passed
    dsimp only [Option.elim_some] at passed ⊢
    by_cases told : h.isPrivate = true
    · rw [if_pos told, Act.emit_bind] at passed
      rw [if_pos told, Act.emit_bind, tryPrivately_unknown passed, if_pos told]
    · rw [if_neg told] at passed
      rw [if_neg told, tryPrivately_unknown passed, if_neg told]

/-- With the built-in handlers only lines that begin with N or R may be private. -/
theorem passed_of_builtIn (builtIn : ∀ h ∈ m.desk.active, h ∈ Registry.builtIn) {line : String}
    (read : Command.read? line = some c) (other : c.verb ≠ 'N' ∧ c.verb ≠ 'R') :
    (privateCommand (Command.withoutLineEnd line.toList) m).value = .ok .unknown := by
  obtain ⟨rest, typed⟩ := read?_line read
  have begins : (c.verb :: rest).head? ≠ some 'N' ∧ (c.verb :: rest).head? ≠ some 'R' := by
    simpa using other
  obtain ⟨es, passed⟩ := privateCommand_other builtIn begins
  rw [typed, passed]

/-- A line that no private command takes is carried out, and a fault put to the operator. -/
theorem execute_passed {line : String} (read : Command.read? line = some c)
    (passed : (privateCommand (Command.withoutLineEnd line.toList) m).value = .ok .unknown) :
    execute line m = match (perform c m).value with
      | .ok result => ⟨.ok result, (perform c m).state,
          m.consulted (Command.withoutLineEnd line.toList) ++ (perform c m).effects⟩
      | .error e => ⟨(recover c e (perform c m).state).value,
          (recover c e (perform c m).state).state,
          m.consulted (Command.withoutLineEnd line.toList) ++ (perform c m).effects ++
            (recover c e (perform c m).state).effects⟩ := by
  have dispatched : dispatch c (Command.withoutLineEnd line.toList) m =
      ⟨(perform c m).value, (perform c m).state,
        m.consulted (Command.withoutLineEnd line.toList) ++ (perform c m).effects⟩ :=
    Act.bind_of (privateCommand_unknown passed)
  unfold execute
  rw [read]
  dsimp only
  cases performed : (perform c m).value with
  | ok result => rw [Act.tryCatch_ok (by rw [dispatched, performed]), dispatched]
  | error e => rw [Act.tryCatch_error (by rw [dispatched, performed]), dispatched]

/-- A command that goes through lets the run go on. -/
theorem execute_done {line : String} (read : Command.read? line = some c)
    (passed : (privateCommand (Command.withoutLineEnd line.toList) m).value = .ok .unknown)
    {x : Do Unit} (carried : perform c = do x; return .proceed) (answers : (x m).value = .ok ()) :
    execute line m = ⟨.ok .proceed, (x m).state,
      m.consulted (Command.withoutLineEnd line.toList) ++ (x m).effects⟩ := by
  have performed : perform c m = ⟨.ok .proceed, (x m).state, (x m).effects⟩ := by
    rw [carried, Act.bind_pure_const, answers]
    rfl
  rw [execute_passed read passed, performed]

/-- What the operator is told of a command that is stopped. -/
def failure (verb : Char) (e : Fault) : Effect :=
  .complain s!"Command '{verb}' failed: {e.message}"

theorem recover_mild {e : Fault} (mild : isSurvivable e = true) (c : Command) (m : Monitor) :
    recover c e m = ⟨.ok .proceed, m, [failure c.verb e]⟩ := by
  unfold recover
  rw [if_pos mild]
  rfl

/-- A command that is stopped is put to the operator. -/
theorem execute_stopped {line : String} (read : Command.read? line = some c)
    (passed : (privateCommand (Command.withoutLineEnd line.toList) m).value = .ok .unknown)
    {x : Do Unit} (carried : perform c = do x; return .proceed) {e : Fault}
    (stopped : (x m).value = .error e) (mild : isSurvivable e = true) :
    execute line m = ⟨.ok .proceed, (x m).state,
      m.consulted (Command.withoutLineEnd line.toList) ++ (x m).effects ++
        [failure c.verb e]⟩ := by
  have performed : perform c m = ⟨.error e, (x m).state, (x m).effects⟩ := by
    rw [carried, Act.bind_pure_const, stopped]
    rfl
  rw [execute_passed read passed, performed]
  simp only [recover_mild mild]

/-- What the operator is told of how a command has fared: why it is stopped, if it is. -/
def failures (verb : Char) : Except Fault Unit → List Effect
  | .ok () => []
  | .error e => [failure verb e]

/-- All that is done about a line that no private command takes, however its command fares. -/
theorem execute_effects {line : String} (read : Command.read? line = some c)
    (passed : (privateCommand (Command.withoutLineEnd line.toList) m).value = .ok .unknown)
    {x : Do Unit} (carried : perform c = do x; return .proceed)
    (mild : ∀ e, (x m).value = .error e → isSurvivable e = true) :
    (execute line m).effects = m.consulted (Command.withoutLineEnd line.toList) ++
      ((x m).effects ++ failures c.verb (x m).value) := by
  cases fared : (x m).value with
  | ok u =>
    rw [execute_done read passed carried fared, failures, List.append_nil]
  | error e =>
    rw [execute_stopped read passed carried fared (mild e fared), failures, List.append_assoc]

/-- What is known of the command in this state is known of a line that is not private. -/
theorem execute_obeys_passed {T : Monitor → List Effect → Monitor → Prop} [Act.Composes T]
    {verbs : Char → Prop} (p : Permits verbs T) {line : String}
    (read : Command.read? line = some c)
    (passed : (privateCommand (Command.withoutLineEnd line.toList) m).value = .ok .unknown)
    (performed : Act.Obeys T m (perform c)) : Act.Obeys T m (execute line) := by
  have dispatched : Act.Obeys T m (dispatch c (Command.withoutLineEnd line.toList)) := by
    apply (privateCommand_obeys p _ m).bind_same (by rw [privateCommand_unknown passed])
    intro status answered
    obtain rfl := Except.ok.inj (passed.symm.trans answered)
    exact performed
  unfold execute
  rw [read]
  exact dispatched.caught fun e _ => recover_obeys p c e _

end GnssMonitor.Monitor
