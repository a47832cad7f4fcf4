import Mathlib.Control.Monad.Basic
import GnssMonitor.Proofs.Monitor.Amid
import GnssMonitor.Proofs.Monitor.Runs

/-! A signal to end the run, whenever it comes, ends it: no later than the next turn, and without
another wait for the device or the operator. -/

namespace GnssMonitor

namespace Event

/-- What happens after the first signal. -/
def afterSignal : List Event → List Event
  | [] => []
  | signal :: rest => rest
  | _ :: rest => afterSignal rest

theorem afterSignal_append (es es' : List Event) : afterSignal (es ++ es') =
    if came es then afterSignal es ++ es' else afterSignal es' := by
  induction es with
  | nil => rfl
  | cons e rest ih =>
    cases e with
    | signal => simp [afterSignal, came]
    | _ => simpa [afterSignal, came] using ih

theorem afterSignal_of_calm {es es' : List Event} (calm : came es = false) :
    afterSignal (es ++ es') = afterSignal es' := by
  rw [afterSignal_append, calm, if_neg Bool.false_ne_true]

theorem mem_of_mem_afterSignal {e : Event} {es : List Event} (h : e ∈ afterSignal es) : e ∈ es := by
  induction es with
  | nil => exact h
  | cons e' rest ih =>
    cases e' with
    | signal => exact List.mem_cons_of_mem _ h
    | _ => exact List.mem_cons_of_mem _ (ih h)

theorem afterSignal_busy {es : List Event} (busy : ∀ e ∈ es, e.isBusy = true) :
    ∀ e ∈ afterSignal es, e.isBusy = true :=
  fun e there => busy e (mem_of_mem_afterSignal there)

theorem not_busy_of_mem {e : Event} {es : List Event} (busy : ∀ e ∈ es, e.isBusy = true)
    (idle : e.isBusy = false) : e ∉ es := by
  intro there
  rw [busy e there] at idle
  cases idle

end Event

open Event (done came afterSignal)

namespace Monitor

variable {m : Monitor}

theorem onEndpoint_heedless {b : Bool} (f : Endpoint → Endpoint) : Heedless b (onEndpoint f) :=
  onSession_heedless _

/-- What happens apart from turns has nothing to do with signals. -/
theorem meet_heedless {b : Bool} {h : Happening} (apart : ∀ wait, h ≠ .turn wait) :
    Heedless b (meet h) := by
  cases h with
  | arrives | readFails | delivers | drains | refuses =>
    exact (onEndpoint_heedless _).bind fun _ => Act.blind_pure none
  | resized | ticks | stores =>
    exact Act.Blind.bind (modifyDesk_heedless fun _ => rfl) fun _ => Act.blind_pure none
  | pulse clock second =>
    refine (onDesk_heedless (Desk.takePulse_heedless clock second)).bind fun _ => ?_
    exact Act.blind_pure none
  | turn wait => exact absurd rfl (apart wait)

/-- What happens, one after the other. What stops a pulse stops no run. -/
def pass : List Happening → Do Unit
  | [] => pure ()
  | h :: rest => do
    let _ ← Act.attempt (meet h)
    pass rest

theorem pass_heedless {b : Bool} {hs : List Happening} (apart : ∀ h ∈ hs, ∀ wait, h ≠ .turn wait) :
    Heedless b (pass hs) := by
  induction hs with
  | nil => exact Act.blind_pure ()
  | cons h rest ih =>
    have met : Heedless b (meet h) := meet_heedless (apart h List.mem_cons_self)
    refine met.attempt.bind fun _ => ?_
    exact ih fun h' there => apart h' (List.mem_cons_of_mem _ there)

theorem pass_answers (hs : List Happening) : Act.Answers (pass hs) := by
  induction hs with
  | nil => exact Act.answers_pure ()
  | cons h rest ih =>
    refine Act.Answers.bind (fun m => ⟨_, rfl⟩) fun _ => ih

/-- A turn and what comes before it: other things that happen, and a signal perhaps. Signals may
come in the turn as well. -/
structure Round where
  meanwhile : List Happening := []
  apart : ∀ h ∈ meanwhile, ∀ wait, h ≠ .turn wait
  early : Bool := false
  comes : Juncture → Bool := fun _ => false
  wait : Wait

def Round.turn (r : Round) : Amid (Option Cause) := do
  plainly (pass r.meanwhile)
  strike r.early
  Act.emit .begins
  stepAmid r.comes r.wait

/-- Round after round until something ends the run. -/
def run : List Round → Amid (Option Cause)
  | [] => return none
  | r :: rest => do
    match ← r.turn with
    | some cause => return some cause
    | none => run rest

/-- A round is a turn, in a state that tells of the signals before it. -/
theorem turn_apply (r : Round) (m : Monitor) : ∃ m' before, (∀ e ∈ before, e.isBusy = true) ∧
    m'.desk.signalled = (m.desk.signalled || came before) ∧
    r.turn m = ⟨(stepAmid r.comes r.wait m').value, (stepAmid r.comes r.wait m').state,
      before ++ .begins :: (stepAmid r.comes r.wait m').effects⟩ := by
  have passed := echoes_plainly (fun b => pass_heedless (b := b) r.apart) m
  obtain ⟨_, answered⟩ := pass_answers r.meanwhile m
  have first : (plainly (pass r.meanwhile) m).value = .ok () := answered
  have struck := strike_apply r.early (plainly (pass r.meanwhile) m).state
  obtain ⟨_, noted, busy⟩ := passed.bind fun _ => echoes_strike r.early _
  rw [Act.bind_ok first, struck] at noted busy
  refine ⟨_, _, busy, noted, ?_⟩
  unfold Round.turn
  rw [Act.bind_ok first, Act.bind_ok (by rw [struck]), struck, Act.emit_bind]
  simp

/-- How a round goes. A signal that has come before its turn ends the run; without one there may be
signals from the end of the wait on, and they are taken note of. -/
inductive Went (m : Monitor) (out : Outcome Event Monitor (Option Cause)) : Prop
  | late {before : List Event} (busy : ∀ e ∈ before, e.isBusy = true)
      (effects : out.effects = before ++ [.begins]) (value : out.value = .ok (some .signal))
  | quiet {before waited es : List Event} (unsignalled : m.desk.signalled = false)
      (calm : came (before ++ .begins :: waited) = false)
      (effects : out.effects = before ++ .begins :: waited ++ es)
      (busy : ∀ e ∈ es, e.isBusy = true) (noted : out.state.desk.signalled = came es)

theorem turn_went (r : Round) (m : Monitor) : Went m (r.turn m) := by
  obtain ⟨m', before, busy, noted, turned⟩ := turn_apply r m
  cases late : m'.desk.signalled with
  | true =>
    rw [stepAmid_of_signalled late] at turned
    rw [turned]
    exact .late busy rfl rfl
  | false =>
    have unsignalled : m.desk.signalled = false ∧ came before = false := by
      rwa [late, eq_comm, Bool.or_eq_false_iff] at noted
    obtain ⟨quiet, calm⟩ := unsignalled
    rw [turned]
    cases present : m'.session.endpoint.isNone with
    | true =>
      rw [stepAmid_of_absent late present]
      have calm : came (before ++ .begins :: []) = false := by simpa [came] using calm
      exact .quiet quiet calm (List.append_nil _).symm (by simp) late
    | false =>
      have calm : came (before ++ [.begins, .waits]) = false := by simpa [came] using calm
      by_cases woken : ∃ w, r.wait = .woke w ∧ w.signalled = true
      · obtain ⟨w, woke, signalled⟩ := woken
        rw [woke, stepAmid_of_woken late present signalled]
        have struck : ∀ e ∈ [Event.signal], e.isBusy = true := by simp [Event.isBusy]
        exact .quiet quiet calm (by simp) struck rfl
      · have undisturbed : ∀ w, r.wait = .woke w → w.signalled = false := by
          intro w woke
          exact Bool.eq_false_iff.mpr fun signalled => woken ⟨w, woke, signalled⟩
        obtain ⟨es, waits, busy, _, noted⟩ := step_echoes late present undisturbed r.comes
        exact .quiet quiet calm (by simp [waits]) busy noted

/-- What ends a turn ends the run. -/
theorem run_of_stopped {r : Round} (stopped : (r.turn m).value ≠ .ok none) (rest : List Round) :
    run (r :: rest) m = r.turn m := by
  unfold run
  cases value : (r.turn m).value with
  | error e => rw [Act.bind_error value, ← value]
  | ok cause =>
    cases cause with
    | none => exact absurd value stopped
    | some cause =>
      rw [Act.bind_ok value]
      dsimp only
      rw [Act.pure_apply, List.append_nil, ← value]

theorem run_of_quiet {r : Round} (quiet : (r.turn m).value = .ok none) (rest : List Round) :
    run (r :: rest) m = ⟨(run rest (r.turn m).state).value, (run rest (r.turn m).state).state,
      (r.turn m).effects ++ (run rest (r.turn m).state).effects⟩ := by
  rw [run, Act.bind_ok quiet]

/-- Once a signal has come, the next turn ends the run before anything is waited for. -/
theorem run_of_signalled (late : m.desk.signalled = true) (r : Round) (rest : List Round) :
    (run (r :: rest) m).value = .ok (some .signal) ∧ ∃ before,
      (∀ e ∈ before, e.isBusy = true) ∧ (run (r :: rest) m).effects = before ++ [.begins] := by
  cases turn_went r m with
  | late busy effects value =>
    have stopped : (r.turn m).value ≠ .ok none := by simp [value]
    rw [run_of_stopped stopped]
    exact ⟨value, _, busy, effects⟩
  | quiet unsignalled => simp [late] at unsignalled

/-- After the first signal nothing is waited for. If another turn begins, nothing is done in it and
it ends the run for the signal. -/
structure Heeded (out : Outcome Event Monitor (Option Cause)) : Prop where
  unread : .waits ∉ afterSignal out.effects
  last : ∀ es rest, afterSignal out.effects = es ++ .begins :: rest →
    rest = [] ∧ out.value = .ok (some .signal)

theorem heeded_of_busy {out : Outcome Event Monitor (Option Cause)}
    (busy : ∀ e ∈ afterSignal out.effects, e.isBusy = true) : Heeded out where
  unread := Event.not_busy_of_mem busy rfl
  last es rest after := absurd (by simp [after]) (Event.not_busy_of_mem busy (e := .begins) rfl)

/-- One turn begins after the signal, and does no more than that. -/
theorem heeded_of_begins {out : Outcome Event Monitor (Option Cause)} {es : List Event}
    (busy : ∀ e ∈ es, e.isBusy = true) (after : afterSignal out.effects = es ++ [.begins])
    (signal : out.value = .ok (some .signal)) : Heeded out where
  unread := by
    have none := Event.not_busy_of_mem busy (e := .waits) rfl
    simp [after, none]
  last es' rest again := by
    refine ⟨?_, signal⟩
    have none := Event.not_busy_of_mem busy (e := .begins) rfl
    rw [after] at again
    obtain ⟨as, -, same⟩ | ⟨cs, rfl, same⟩ := List.append_eq_append_iff.mp again
    · cases as with
      | nil => exact (List.cons.inj same).2.symm
      | cons a as => simp at same
    · cases cs with
      | nil => exact (List.cons.inj same).2
      | cons c cs =>
        obtain ⟨rfl, -⟩ := List.cons.inj same
        simp at none

theorem Heeded.of_same {out out' : Outcome Event Monitor (Option Cause)} (h : Heeded out')
    (value : out.value = out'.value) (after : afterSignal out.effects = afterSignal out'.effects) :
    Heeded out where
  unread := after ▸ h.unread
  last es rest again := value ▸ h.last es rest (after ▸ again)

theorem turn_heeded (r : Round) (m : Monitor) : Heeded (r.turn m) := by
  cases turn_went r m with
  | @late before busy effects value =>
    by_cases early : came before = true
    · refine heeded_of_begins (Event.afterSignal_busy busy) ?_ value
      rw [effects, Event.afterSignal_append, if_pos early]
    · refine heeded_of_busy ?_
      rw [effects, Event.afterSignal_append, if_neg early]
      simp [afterSignal]
  | quiet _ calm effects busy _ =>
    refine heeded_of_busy ?_
    rw [effects, Event.afterSignal_of_calm calm]
    exact Event.afterSignal_busy busy

/-- A run in the course of which a signal comes heeds it, whenever that is. -/
theorem run_heeded (rounds : List Round) (m : Monitor) : Heeded (run rounds m) := by
  induction rounds generalizing m with
  | nil => exact heeded_of_busy (by simp [run, afterSignal])
  | cons r rest ih =>
    by_cases value : (r.turn m).value = .ok none
    case neg =>
      rw [run_of_stopped value]
      exact turn_heeded r m
    cases turn_went r m with
    | late _ _ ended => simp [value] at ended
    | @quiet before waited es _ calm effects busy noted =>
      have after (tail : List Event) :
          afterSignal ((r.turn m).effects ++ tail) = afterSignal (es ++ tail) := by
        rw [effects, List.append_assoc, Event.afterSignal_of_calm calm]
      have last := Event.afterSignal_busy busy
      rw [run_of_quiet value]
      by_cases arrived : came es = true
      · cases rest with
        | nil =>
          refine heeded_of_busy ?_
          show ∀ e ∈ afterSignal ((r.turn m).effects ++ []), e.isBusy = true
          rwa [after, List.append_nil]
        | cons next rest =>
          have late := noted.trans arrived
          obtain ⟨signal, early, busy', begins⟩ := run_of_signalled late next rest
          have going : ∀ e ∈ afterSignal es ++ early, e.isBusy = true :=
            List.forall_mem_append.mpr ⟨last, busy'⟩
          refine heeded_of_begins going ?_ signal
          rw [begins, after, Event.afterSignal_append, if_pos arrived, List.append_assoc]
      · refine (ih (r.turn m).state).of_same rfl ?_
        exact (after _).trans (Event.afterSignal_of_calm (Bool.eq_false_iff.mpr arrived))

theorem turn_of_unended {r : Round} {rest : List Round}
    (unended : (run (r :: rest) m).value = .ok none) : (r.turn m).value = .ok none := by
  by_contra stopped
  rw [run_of_stopped stopped] at unended
  exact stopped unended

/-- A run that has not ended has taken note of every signal. -/
theorem run_noted (rounds : List Round) (unended : (run rounds m).value = .ok none) :
    (run rounds m).state.desk.signalled = (m.desk.signalled || came (run rounds m).effects) := by
  induction rounds generalizing m with
  | nil => simp [run]
  | cons r rest ih =>
    have value := turn_of_unended unended
    rw [run_of_quiet value] at unended ⊢
    cases turn_went r m with
    | late _ _ ended => simp [value] at ended
    | quiet unsignalled calm effects _ noted =>
      rw [ih unended, noted, effects, Event.came_append, Event.came_append, calm, unsignalled]
      rfl

theorem run_append {rounds : List Round} (unended : (run rounds m).value = .ok none)
    (later : List Round) : (run (rounds ++ later) m).value =
      (run later (run rounds m).state).value := by
  induction rounds generalizing m with
  | nil => rfl
  | cons r rest ih =>
    have value := turn_of_unended unended
    rw [run_of_quiet value] at unended
    rw [List.cons_append, run_of_quiet value, run_of_quiet value]
    exact ih unended

/-- **No signal is lost.** One that has come by the time that a wait returns ends the run there,
whatever the wait brought. One that comes later in a turn leaves the turn as it is, with the cause
it has of its own, and is taken note of; nothing that is done with a packet or a command looks at
that note or takes it back. So after a signal nothing is waited for, and if one more turn begins, or
could, the run ends with it and for the signal. -/
theorem signal_ends_run :
    (∀ m comes wait, m.desk.signalled = true →
      stepAmid comes wait m = ⟨.ok (some .signal), m, []⟩) ∧
    (∀ m comes w, m.desk.signalled = false → m.session.endpoint.isNone = false →
      w.signalled = true →
        stepAmid comes (.woke w) m =
          ⟨.ok (some .signal), m.withSignal true, [.waits, .signal]⟩ ∧
        step (.woke w) m = ⟨.ok (some .signal), m.withSignal true, []⟩) ∧
    (∀ m comes wait, m.desk.signalled = false → (∀ w, wait = .woke w → w.signalled = false) →
      step wait m = ⟨(stepAmid comes wait m).value, (stepAmid comes wait m).state.withSignal false,
        done (stepAmid comes wait m).effects⟩ ∧
      (stepAmid comes wait m).state.desk.signalled = came (stepAmid comes wait m).effects) ∧
    (∀ b s line, Desk.Heedless b (Desk.takePacket s) ∧ Heedless b (execute line)) ∧
    (∀ rounds m, Heeded (run rounds m) ∧
      ((run rounds m).value = .ok none → came (run rounds m).effects = true →
        ∀ next later, (run (rounds ++ next :: later) m).value = .ok (some .signal))) ∧
    ∀ script o r, (Run.turn o r).value = .ok none →
      (Run.turn o r).state.monitor.desk.signalled = true →
        Run.loop (o :: script) r = ⟨.ok .signal, (Run.turn o r).state, (Run.turn o r).effects⟩ := by
  refine ⟨fun m comes wait late => stepAmid_of_signalled late comes wait, ?_, ?_, ?_, ?_, ?_⟩
  · intro m comes w quiet present signalled
    refine ⟨stepAmid_of_woken quiet present signalled comes, ?_⟩
    rw [step_of_present quiet present, answer, serve, if_pos signalled]
    rfl
  · intro m comes wait quiet undisturbed
    exact step_of_undisturbed quiet undisturbed comes
  · exact fun b s line => ⟨Desk.takePacket_heedless s, execute_heedless line⟩
  · intro rounds m
    refine ⟨run_heeded rounds m, fun unended arrived next later => ?_⟩
    have late : (run rounds m).state.desk.signalled = true := by
      rw [run_noted rounds unended, arrived, Bool.or_true]
    rw [run_append unended]
    exact (run_of_signalled late next later).1
  · intro script o r quiet late
    rw [Run.loop, Act.bind_ok quiet]
    simp [Run.loop_of_signalled script late]

/-- A signal in the middle of a batch of packets, and one that finds a failed line. -/
theorem signal_ends_run_of_packet :
    let start : Monitor := (Session.opened (.serial "/dev/ttyS0"), { hostname := "localhost" })
    let rounds : List Round := [{
      meanwhile := [.arrives (.bytes [0xa0, 0xa2, 0, 0, 0, 0, 0xb0, 0xb3])]
      apart := by simp
      comes := fun juncture => juncture matches .taking _
      wait := .woke { deviceReady := true } }]
    let failed : Wake := { deviceErred := true, signalled := true }
    let r : Run := ⟨start, .console { pause := Console.standardPause }⟩
    let scene : Occurrence := .scene { signalledLate := true }
    ((run rounds start).value = .ok none ∧ came (run rounds start).effects = true ∧
      ∀ next later, (run (rounds ++ next :: later) start).value = .ok (some .signal)) ∧
    (start.desk.signalled = false ∧ start.session.endpoint.isNone = false ∧
      step (.woke failed) start = ⟨.ok (some .signal), start.withSignal true, []⟩) ∧
    stepAmid (fun _ => false) .failed (start.withSignal true) =
      ⟨.ok (some .signal), start.withSignal true, []⟩ ∧
    (step .failed start).value = (stepAmid (fun _ => true) .failed start).value ∧
    (Run.turn scene r).value = .ok none ∧ (Run.turn scene r).state.monitor.desk.signalled = true ∧
      ∀ script, (Run.loop (scene :: script) r).value = .ok .signal := by
  intro start rounds failed r scene
  obtain ⟨late, woken, apart, -, whole, looped⟩ := signal_ends_run
  have unended : (run rounds start).value = .ok none := by decide +kernel
  have arrived : came (run rounds start).effects = true := by decide +kernel
  have quiet : (Run.turn scene r).value = .ok none := by decide +kernel
  have noted : (Run.turn scene r).state.monitor.desk.signalled = true := by decide +kernel
  refine ⟨⟨unended, arrived, (whole rounds start).2 unended arrived⟩, ⟨rfl, rfl, ?_⟩, ?_, ?_, quiet,
    noted, fun script => ?_⟩
  · exact (woken start (fun _ => false) failed rfl rfl rfl).2
  · exact late (start.withSignal true) _ _ rfl
  · rw [(apart start (fun _ => true) .failed rfl nofun).1]
  · rw [looped script scene r quiet noted]

end Monitor
end GnssMonitor
