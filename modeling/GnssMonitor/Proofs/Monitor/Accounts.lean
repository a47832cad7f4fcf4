import GnssMonitor.Proofs.Monitor.Runs

/-! A run with its account: what the device has said in it, which lines of the operator have been
run and what has stopped intakes. -/

namespace GnssMonitor.Monitor

open Act (Obeys)

/-- What the device says when it is read next. -/
def incoming (m : Monitor) : Bytes := (m.session.endpoint.bind (·.receive.1)).getD []

/-- What a run has consisted of so far: what the device has been read to say, the lines that have
been run, and the faults that have stopped intakes. -/
structure Account where
  read : Bytes := []
  lines : List String := []
  faults : List Fault := []

/-- What the next intake is stopped by. -/
def upset (m : Monitor) : List Fault :=
  match (intake m).value with
  | .ok _ => []
  | .error e => [e]

/-- What happens apart from turns of the loop and from pulses on the line. -/
def Happening.Apart (h : Happening) : Prop :=
  (∀ wait, h ≠ .turn wait) ∧ ∀ clock second, h ≠ .pulse clock second

/-- The monitor has come to be this one without a pulse on the line, by all that turns of the loop
consist of and by whatever else happened. -/
inductive Ran (start : Monitor) : Account → List Effect → Monitor → Prop
  | start : Ran start {} [] start
  | reads {a : Account} {es : List Effect} {m : Monitor} (run : Ran start a es m) :
      Ran start { a with read := a.read ++ m.incoming, faults := a.faults ++ m.upset }
        (es ++ (intake m).effects) (intake m).state
  | runs {a : Account} {es : List Effect} {m : Monitor} (line : String) (run : Ran start a es m) :
      Ran start { a with lines := a.lines ++ [line] } (es ++ (execute line m).effects)
        (execute line m).state
  | asks {a : Account} {es : List Effect} {m : Monitor} (run : Ran start a es m) :
      Ran start a (es ++ [.ask m.prompt]) m
  | resumes {a : Account} {es : List Effect} {m : Monitor} (run : Ran start a es m) :
      Ran start a (es ++ [.resume]) m
  | deafens {a : Account} {es : List Effect} {s : Session} {d : Desk}
      (run : Ran start a es (s, d)) : Ran start a es (s, { d with listening := false })
  | signals {a : Account} {es : List Effect} {s : Session} {d : Desk}
      (run : Ran start a es (s, d)) : Ran start a es (s, { d with signalled := true })
  | passes {a : Account} {es : List Effect} {m : Monitor} (h : Happening) (apart : h.Apart)
      (run : Ran start a es m) : Ran start a (es ++ (meet h m).effects) (meet h m).state

variable {start m m' : Monitor} {a : Account} {es es' : List Effect}

/-- Every run goes on so, with no other lines run than these. -/
def GoesOn (start : Monitor) (said : String → Prop) (m : Monitor) (es' : List Effect)
    (m' : Monitor) : Prop :=
  ∀ a es, Ran start a es m → ∃ lines, (∀ line ∈ lines, said line) ∧
    Ran start { a with lines := a.lines ++ lines } (es ++ es') m'

variable {said : String → Prop}

theorem goesOn_silent (goesOn : ∀ a es, Ran start a es m → Ran start a (es ++ es') m') :
    GoesOn start said m es' m' := by
  intro a es run
  refine ⟨[], by simp, ?_⟩
  rw [List.append_nil]
  exact goesOn a es run

instance : Act.Composes (GoesOn start said) where
  nothing m := goesOn_silent fun a es run => (List.append_nil es).symm ▸ run
  next := by
    intro m m' m'' es es' first second a before run
    obtain ⟨lines, there, run'⟩ := first a before run
    obtain ⟨lines', there', run''⟩ := second _ _ run'
    refine ⟨lines ++ lines', List.forall_mem_append.mpr ⟨there, there'⟩, ?_⟩
    rwa [← List.append_assoc, ← List.append_assoc]

theorem signals_goesOn (m : Monitor) :
    Obeys (GoesOn start said) m (modifyDesk fun d => { d with signalled := true }) :=
  goesOn_silent fun _ es run => (List.append_nil es).symm ▸ run.signals

theorem hears_goesOn (start : Monitor) (said : String → Prop) :
    Hears said (GoesOn start said) where
  asks _ := goesOn_silent fun _ _ run => run.asks
  resumes _ := goesOn_silent fun _ _ run => run.resumes
  deafens _ := goesOn_silent fun _ es run => (List.append_nil es).symm ▸ run.deafens
  executes _ line there _ _ run := ⟨[line], by simpa using there, run.runs line⟩

/-- The device is read then: it is there and ready, and nothing has ended the run. -/
def reads (m : Monitor) : Happening → Bool
  | .turn (.woke w) => m.session.endpoint.isSome && !m.desk.signalled && !w.signalled &&
      !w.deviceErred && w.deviceReady
  | _ => false

theorem operator_goesOn (w : Wake) (m : Monitor) :
    Obeys (GoesOn start (Happening.turn (.woke w)).Says) m (serveOperator w.reply) :=
  serveOperator_obeys (hears_goesOn start _) (fun _ same => ⟨w, rfl, same⟩) m

/-- In a turn that does not read the device at most the operator is heard. -/
theorem step_unread {wait : Wait} (unread : m.reads (.turn wait) = false) :
    Obeys (GoesOn start (Happening.turn wait).Says) m (step wait) := by
  refine .get_bind (Act.obeys_ite (fun _ => Act.obeys_pure _) fun unsignalled => ?_)
  refine Act.obeys_ite (fun _ => Act.obeys_throw _) fun present => ?_
  cases wait with
  | failed => exact Act.obeys_pure _
  | broken e => exact Act.obeys_throw e
  | woke w =>
    refine Act.obeys_ite (fun _ => ?_) fun uninterrupted => ?_
    · exact (signals_goesOn m).bind fun _ _ => Act.obeys_pure _
    · refine .get_bind (Act.obeys_ite (fun _ => Act.obeys_pure _) fun _ => ?_)
      refine Act.obeys_ite (fun _ => Act.obeys_pure _) fun calm => ?_
      refine Act.obeys_ite (fun ready => ?_) fun _ => operator_goesOn w m
      simp_all [reads]

/-- A run up to the end of an action goes on as what follows the action does. -/
theorem Ran.goes_on {α β : Type} {x : Do α} {f : α → Do β}
    (run : Ran start a (es ++ (x m).effects) (x m).state)
    (then_ : ∀ c, Obeys (GoesOn start said) (x m).state (f c)) :
    ∃ lines, (∀ line ∈ lines, said line) ∧ Ran start { a with lines := a.lines ++ lines }
      (es ++ ((x >>= f) m).effects) ((x >>= f) m).state := by
  cases answer : (x m).value with
  | ok c =>
    rw [Act.bind_ok answer, ← List.append_assoc]
    exact then_ c _ _ run
  | error e =>
    rw [Act.bind_error answer]
    exact ⟨[], by simp, by rwa [List.append_nil]⟩

theorem serveDevice_intakes (m : Monitor) :
    (serveDevice m).effects = (intake m).effects ∧ (serveDevice m).state = (intake m).state := by
  unfold serveDevice
  cases answer : (intake m).value with
  | ok status => simp [Act.bind_ok answer]
  | error e => simp [Act.bind_error answer]

/-- A turn that reads the device reads it first of all. -/
theorem step_read {w : Wake} (read : m.reads (.turn (.woke w)) = true) :
    step (.woke w) m =
      (serveDevice >>= fun cause => cause.elim (serveOperator w.reply) (pure ∘ some) : Do _) m := by
  simp only [reads, Bool.and_eq_true, Bool.not_eq_true'] at read
  obtain ⟨⟨⟨⟨present, unsignalled⟩, uninterrupted⟩, calm⟩, ready⟩ := read
  have there : m.session.endpoint ≠ none := Option.isSome_iff_ne_none.mp present
  simp only [step, serve, attend, Act.get_bind, unsignalled, uninterrupted, calm, ready,
    Option.isNone_iff_eq_none, there, if_true, if_false, Bool.false_eq_true]
  refine congrFun (congrArg (serveDevice >>= ·) (funext fun cause => ?_)) m
  cases cause <;> rfl

/-- The account once this has happened and these lines have been run. -/
def Account.after (a : Account) (m : Monitor) (h : Happening) (lines : List String) : Account :=
  if m.reads h then ⟨a.read ++ m.incoming, a.lines ++ lines, a.faults ++ m.upset⟩
  else { a with lines := a.lines ++ lines }

/-- All that happens but pulses on the line makes such runs, turns of the loop above all. The
device is read in the turns that find it ready, and lines are run only if the operator says so. -/
theorem Ran.meets (run : Ran start a es m) {h : Happening}
    (other : ∀ clock second, h ≠ .pulse clock second) :
    ∃ lines, (∀ line ∈ lines, h.Says line) ∧
      Ran start (a.after m h lines) (es ++ (meet h m).effects) (meet h m).state := by
  unfold Account.after
  by_cases read : m.reads h
  · simp only [read, if_true]
    match h with
    | .turn (.woke w) =>
      obtain ⟨effects, state⟩ := serveDevice_intakes m
      have taken := run.reads
      rw [← effects, ← state] at taken
      rw [meet, step_read read]
      refine taken.goes_on fun cause => ?_
      cases cause with
      | some cause => exact Act.obeys_pure _
      | none => exact operator_goesOn w _
  · simp only [read]
    by_cases turn : ∃ wait, h = .turn wait
    · obtain ⟨wait, rfl⟩ := turn
      exact step_unread (Bool.not_eq_true _ ▸ read) a es run
    · refine ⟨[], by simp, ?_⟩
      rw [List.append_nil]
      exact run.passes h ⟨fun wait same => turn ⟨wait, same⟩, other⟩

theorem Ran.settled (settled : start.Settled) (run : Ran start a es m) : m.Settled := by
  induction run with
  | start => exact settled
  | reads _ ih => exact (intake_settles _ ih).1
  | runs line _ ih => exact (serves_settles.executes _ line trivial ih).1
  | asks _ ih | resumes _ ih => exact ih
  | deafens _ ih => exact (serves_settles.deafens _ ih).1
  | signals _ ih => exact (serves_settles.signals _ ih).1
  | passes h _ _ ih => exact (meet_settles h _ ih).1

end GnssMonitor.Monitor
