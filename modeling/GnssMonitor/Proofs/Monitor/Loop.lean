import GnssMonitor.Proofs.Monitor.Settled
import GnssMonitor.Run

/-! The loop of the program: what is shown has no part in what is monitored, so that each turn is
one of the monitor. -/

namespace GnssMonitor.Run

open Act (Obeys)

/-- What is known of showing each effect is known of showing them all. -/
theorem performAll_obeys {T : Run → List RunEffect → Run → Prop} [Act.Composes T] {typed : Typed}
    {es : List Effect} (each : ∀ e ∈ es, ∀ r, Obeys T r (perform typed e)) (r : Run) :
    Obeys T r (performAll typed es) := by
  induction es generalizing r with
  | nil => exact Act.obeys_pure ()
  | cons e rest ih =>
    refine (each e List.mem_cons_self r).bind fun _ _ => ?_
    exact ih (fun e' there => each e' (List.mem_cons_of_mem _ there)) _

/-- The display alone changes. -/
def OnlyDisplays (r : Run) (_ : List RunEffect) (r' : Run) : Prop := r'.monitor = r.monitor

instance : Act.Composes OnlyDisplays where
  nothing _ := rfl
  next first second := second.trans first

theorem performAll_displays (typed : Typed) (effects : List Effect) (r : Run) :
    Obeys OnlyDisplays r (performAll typed effects) := by
  refine performAll_obeys (fun e _ r => ?_) r
  cases e <;> rfl

/-- What comes of showing effects: those on the line are passed on, the rest is for the display. -/
def Shown (effects : List Effect) : Run → List RunEffect → Run → Prop :=
  Act.Only fun e => (∃ l, e = .line l ∧ .line l ∈ effects) ∨ (∃ p, e = .pause p) ∨
    ∃ d, e = .display d

theorem onDisplay_shown {α : Type} (effects : List Effect) (x : Display.Do α) (r : Run) :
    Shown effects r (onDisplay x r).effects (onDisplay x r).state := by
  intro e he
  obtain ⟨d, _, rfl⟩ := List.mem_map.mp he
  exact .inr (.inr ⟨d, rfl⟩)

theorem perform_shown {effects : List Effect} {e : Effect} (there : e ∈ effects) (typed : Typed)
    (r : Run) : Shown effects r (perform typed e r).effects (perform typed e r).state := by
  cases e with
  | line l => simp [perform, Shown, Act.Only, there]
  | pause p => simp [perform, Shown, Act.Only]
  | _ => exact onDisplay_shown effects _ r

theorem performAll_shown {effects es : List Effect} (there : ∀ e ∈ es, e ∈ effects)
    (typed : Typed) (r : Run) : Obeys (Shown effects) r (performAll typed es) := by
  have composes : Act.Composes (Shown effects) := inferInstanceAs (Act.Composes (Act.Only _))
  exact performAll_obeys (fun e here => perform_shown (there e here) typed) r

theorem performAll_append (typed : Typed) (es es' : List Effect) (r : Run) :
    performAll typed (es ++ es') r = (performAll typed es >>= fun _ => performAll typed es') r := by
  induction es generalizing r with
  | nil => rfl
  | cons e rest ih =>
    show (perform typed e >>= fun _ => performAll typed (rest ++ es')) r = _
    rw [performAll, Act.bind_assoc]
    cases shown : (perform typed e r).value with
    | error fault => rw [Act.bind_error shown, Act.bind_error shown]
    | ok u => rw [Act.bind_ok shown, Act.bind_ok shown, ih]

theorem performAll_singleton (typed : Typed) (e : Effect) (r : Run) :
    performAll typed [e] r = perform typed e r :=
  Act.bind_pure (perform typed e) r

variable {α : Type}

theorem onMonitor_monitor (typed : Typed) (x : Monitor.Do α) (r : Run) :
    (onMonitor typed x r).state.monitor = (x r.monitor).state :=
  performAll_displays typed _ _

def withMonitor (monitor : Monitor) (r : Run) : Run := { r with monitor }

theorem onMonitor_apply {r : Run} {typed : Typed} {x : Monitor.Do α} {a : Except Fault α}
    {m : Monitor} {es : List Effect} {shown : Outcome RunEffect Run Unit}
    (done : x r.monitor = ⟨a, m, es⟩) (performed : performAll typed es (r.withMonitor m) = shown) :
    onMonitor typed x r = ⟨shown.value.bind fun _ => a, shown.state, shown.effects⟩ := by
  unfold onMonitor
  rw [done, ← performed]
  rfl

/-- Monitoring answers once all that it does has been shown. -/
theorem onMonitor_ok {typed : Typed} {x : Monitor.Do α} {r : Run} {a : α}
    (h : (onMonitor typed x r).value = .ok a) : (x r.monitor).value = .ok a ∧
      (performAll typed (x r.monitor).effects
        { r with monitor := (x r.monitor).state }).value = .ok () := by
  unfold onMonitor at h
  cases shown : (performAll typed (x r.monitor).effects
      { r with monitor := (x r.monitor).state }).value with
  | ok u =>
    simp only [shown] at h
    exact ⟨h, rfl⟩
  | error e =>
    simp only [shown] at h
    contradiction

theorem onMonitor_value {typed : Typed} {x : Monitor.Do α} {r : Run} {a : α}
    (h : (onMonitor typed x r).value = .ok a) : (x r.monitor).value = .ok a :=
  (onMonitor_ok h).1

/-- What monitoring does to the line is seen, and else it is for the display. -/
theorem onMonitor_shown (typed : Typed) (x : Monitor.Do α) (r : Run) :
    Obeys (Shown (x r.monitor).effects) r (onMonitor typed x) :=
  performAll_shown (fun _ he => he) typed { r with monitor := (x r.monitor).state }

theorem await_settled (o : Occurrence) {r : Run} (settled : r.monitor.Settled) :
    (await o r).state.monitor.Settled := by
  have desk := settled.desk
  cases o with
  | scene x => exact ⟨⟨desk.registry, desk.idle, desk.active⟩, settled.known⟩
  | _ => exact settled

theorem attend_settled (o : Occurrence) {r : Run} (settled : r.monitor.Settled) :
    (attend o r).state.monitor.Settled ∧ (attend o r).value ≠ .ok (some .driverSwitch) := by
  have awaited := await_settled o settled
  unfold attend
  cases wait : (await o r).value with
  | ok wait' =>
    rw [Act.bind_ok wait]
    refine ⟨?_, fun h => Monitor.step_cause awaited (onMonitor_value h)⟩
    rw [onMonitor_monitor]
    exact (Monitor.step_obeys Monitor.serves_settles wait' _ awaited).1
  | error e =>
    rw [Act.bind_error wait]
    exact ⟨awaited, nofun⟩

section

variable {o : Occurrence} {r : Run}

theorem turn_of_signalled (o : Occurrence) (late : r.monitor.desk.signalled = true) :
    turn o r = ⟨.ok (some .signal), r, []⟩ := by
  simp [turn, late]

theorem readsLeft_pos (s : Session) : 0 < readsLeft s := by
  have grows (ns : List Nat) (n : Nat) : n ≤ ns.foldl (· + ·) n := by
    induction ns generalizing n with
    | nil => exact Nat.le_refl n
    | cons k ns ih => exact Nat.le_trans (Nat.le_add_right n k) (ih (n + k))
  unfold readsLeft
  split
  · exact Nat.one_pos
  · exact Nat.lt_of_lt_of_le Nat.two_pos (grows _ 2)

/-- Once a signal has come nothing more is waited for, whatever there is to come. -/
theorem loop_of_signalled (script : List Occurrence) (late : r.monitor.desk.signalled = true) :
    loop script r = ⟨.ok .signal, r, []⟩ := by
  cases script with
  | nil =>
    obtain ⟨n, reads⟩ := Nat.exists_eq_add_of_lt (readsLeft_pos r.monitor.session)
    rw [loop, Act.get_bind, reads]
    simp [runOut, turn_of_signalled _ late, Act.bind_ok]
  | cons o rest => simp [loop, turn_of_signalled o late, Act.bind_ok]

/-- A run to which a signal has come. -/
def signalled (r : Run) : Run :=
  { r with monitor := (r.monitor.session, { r.monitor.desk with signalled := true }) }

/-- A turn waits and serves unless a signal has come, and a signal may come behind it. -/
theorem turn_of_quiet (o : Occurrence) (quiet : r.monitor.desk.signalled = false) :
    (turn o r).value = (attend o r).value ∧ (turn o r).effects = (attend o r).effects ∧
      ((turn o r).state = (attend o r).state ∨
        (turn o r).state = (attend o r).state.signalled) := by
  simp only [turn, Act.get_bind, quiet]
  cases served : (attend o r).value with
  | error e => simp [Act.bind_error served]
  | ok cause =>
    simp only [Bool.false_eq_true, if_false, Act.bind_ok served]
    by_cases late : o.signalledLate = true
    · simp [late, modifyDesk, signalled, Monitor.session, Monitor.desk]
    · simp [late]

theorem turn_obeys {T : Run → List RunEffect → Run → Prop} [Act.Composes T]
    (served : r.monitor.desk.signalled = false → Obeys T r (attend o))
    (flagged : ∀ r, T r [] r.signalled) : Obeys T r (turn o) := by
  cases quiet : r.monitor.desk.signalled with
  | true =>
    unfold Obeys
    rw [turn_of_signalled o quiet]
    exact Act.Composes.nothing r
  | false =>
    obtain ⟨_, effects, state | state⟩ := turn_of_quiet o quiet
    · unfold Obeys
      rw [effects, state]
      exact served quiet
    · unfold Obeys
      rw [effects, state, ← List.append_nil (attend o r).effects]
      exact Act.Composes.next (served quiet) (flagged _)

section

variable {T : Run → List RunEffect → Run → Prop} [Act.Composes T]
  (turned : ∀ o r, Obeys T r (turn o))
include turned

theorem runOut_obeys (n : Nat) (r : Run) : Obeys T r (runOut n) := by
  induction n generalizing r with
  | zero => exact Act.obeys_pure _
  | succ n ih =>
    refine (turned .ending r).bind fun cause _ => ?_
    cases cause with
    | some cause => exact Act.obeys_pure _
    | none => exact ih _

/-- What is known of each turn is known of the whole loop. -/
theorem loop_obeys (script : List Occurrence) (r : Run) : Obeys T r (loop script) := by
  induction script generalizing r with
  | nil => exact .get_bind (runOut_obeys turned _ r)
  | cons o rest ih =>
    refine (turned o r).bind fun cause _ => ?_
    cases cause with
    | some cause => exact Act.obeys_pure _
    | none => exact ih _

end

theorem turn_value {cause : Option Cause} (h : (turn o r).value = .ok cause) :
    cause = some .signal ∨ (attend o r).value = .ok cause := by
  cases quiet : r.monitor.desk.signalled with
  | true =>
    rw [turn_of_signalled o quiet] at h
    exact .inl (Except.ok.inj h).symm
  | false => exact .inr ((turn_of_quiet o quiet).1 ▸ h)

end

theorem turn_settled (o : Occurrence) {r : Run} (settled : r.monitor.Settled) :
    (turn o r).state.monitor.Settled ∧ (turn o r).value ≠ .ok (some .driverSwitch) := by
  constructor
  · have kept : Obeys (Act.Keeps (·.monitor.Settled) fun _ => True) r (turn o) := by
      refine turn_obeys (fun _ here => ?_) fun r here => ?_
      · exact ⟨(attend_settled o here).1, by simp⟩
      · exact ⟨⟨⟨here.desk.registry, here.desk.idle, here.desk.active⟩, here.known⟩, by simp⟩
    exact (kept settled).1
  · intro ended
    rcases turn_value ended with other | served
    · cases other
    · exact (attend_settled o settled).2 served

theorem runOut_cause (n : Nat) {r : Run} (settled : r.monitor.Settled) :
    (runOut n r).value ≠ .ok .driverSwitch := by
  induction n generalizing r with
  | zero => nofun
  | succ n ih =>
    intro h
    obtain ⟨cause, turned, h⟩ := Act.bind_value_ok.mp h
    obtain ⟨settled', other⟩ := turn_settled .ending settled
    cases cause with
    | some cause =>
      cases h
      exact other turned
    | none => exact ih settled' h

/-- No loop ends for want of a handler. -/
theorem loop_cause (script : List Occurrence) {r : Run} (settled : r.monitor.Settled) :
    (loop script r).value ≠ .ok .driverSwitch := by
  induction script generalizing r with
  | nil => exact runOut_cause _ settled
  | cons o rest ih =>
    intro h
    obtain ⟨cause, turned, h⟩ := Act.bind_value_ok.mp h
    obtain ⟨settled', other⟩ := turn_settled o settled
    cases cause with
    | some cause =>
      cases h
      exact other turned
    | none => exact ih settled' h

end GnssMonitor.Run
