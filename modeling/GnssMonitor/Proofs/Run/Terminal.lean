import Mathlib.Control.Monad.Basic
import GnssMonitor.Proofs.Monitor.Work
import GnssMonitor.Proofs.Run.Ending
import GnssMonitor.Proofs.Run.Launch

/-! The mode of the terminal in a run without a screen: single keys while the run waits, and in the
end the mode that was found. -/

namespace GnssMonitor

open Act (Obeys)

namespace Console

def mode? : ConsoleEffect → Option TerminalMode
  | .setMode m => some m
  | _ => none

/-- The modes that the terminal is set to, in order. -/
def modes (es : List ConsoleEffect) : List TerminalMode := es.filterMap mode?

/-- Only the mode of the terminal changes, to the one that was set last. -/
def Tracks (c : Console) (es : List ConsoleEffect) (c' : Console) : Prop :=
  c' = { c with terminal := (modes es).getLast?.or c.terminal }

instance : Act.Composes Tracks where
  nothing _ := rfl
  next := by
    rintro c _ _ es es' rfl rfl
    simp [Tracks, modes, Option.or_assoc]

variable {c : Console}

theorem emit_tracks {e : ConsoleEffect} (other : mode? e = none) (c : Console) :
    Obeys Tracks c (Act.emit e) := by
  simp [Obeys, Tracks, modes, other]

theorem setKnown_tracks (m : Option TerminalMode) (c : Console) :
    Obeys Tracks c (setKnown m) := by
  cases m <;> rfl

theorem stop_tracks (c : Console) : Obeys Tracks c stop := .get_bind (setKnown_tracks _ c)

theorem resume_tracks (c : Console) : Obeys Tracks c resume :=
  .get_bind ((emit_tracks rfl c).bind fun _ _ => .get_bind (setKnown_tracks _ _))

theorem read_tracks (prompt : String) (key : Option UInt8) (rest : String) (c : Console) :
    Obeys Tracks c (read prompt key rest) := by
  cases key with
  | none => exact Act.obeys_throw _
  | some key =>
    have listened (c : Console) : Obeys Tracks c (do
        setKnown (← get).cooked
        let first := String.ofList (Text.decodeAsciiLossy [key])
        out s!"gpsmon: {prompt}> {first}"
        return if first = "\n" then first else first ++ firstLine rest) :=
      .get_bind ((setKnown_tracks _ c).bind fun _ _ =>
        (emit_tracks rfl _).bind fun _ _ => Act.obeys_pure _)
    refine .get_bind (Act.obeys_ite (fun _ => ?_) fun _ => listened c)
    exact (emit_tracks rfl c).bind fun _ _ => listened _

end Console

namespace Run

def mode? : RunEffect → Option TerminalMode
  | .display (.console e) => Console.mode? e
  | _ => none

/-- The modes that the terminal is set to, in order. -/
def modes (es : List RunEffect) : List TerminalMode := es.filterMap mode?

@[simp] theorem modes_nil : modes [] = [] := rfl

@[simp] theorem modes_append (es es' : List RunEffect) :
    modes (es ++ es') = modes es ++ modes es' :=
  List.filterMap_append

theorem modes_eq_nil {es : List RunEffect} : modes es = [] ↔ ∀ e ∈ es, mode? e = none :=
  List.filterMap_eq_nil_iff

theorem modes_console (es : List ConsoleEffect) :
    modes ((es.map .console).map .display) = Console.modes es := by
  simp [modes, Console.modes, List.filterMap_map, Function.comp_def, mode?]

/-- A console stays one, and only the mode of the terminal changes, to the one that was set
last. -/
def Tracks (r : Run) (es : List RunEffect) (r' : Run) : Prop :=
  ∀ c, r.display = .console c →
    r'.display = .console { c with terminal := (modes es).getLast?.or c.terminal }

instance : Act.Composes Tracks where
  nothing _ _ console := console
  next := by
    intro r r' r'' es es' first second c console
    rw [second _ (first c console)]
    simp [Option.or_assoc]

variable {α : Type}

theorem either_apply {c : Console} {r : Run} (console : r.display = .console c)
    (x : Console.Do α) (y : Screen.Do α) : onDisplay (Display.either x y) r =
      ⟨(x c).value, { r with display := .console (x c).state },
        ((x c).effects.map .console).map .display⟩ := by
  unfold onDisplay
  rw [Act.within_apply, console]
  rfl

theorem either_tracks {x : Console.Do α} (tracked : ∀ c, Obeys Console.Tracks c x)
    (y : Screen.Do α) (r : Run) : Obeys Tracks r (onDisplay (Display.either x y)) := by
  intro c console
  have done : (x c).state = _ := tracked c
  rw [either_apply console, modes_console]
  simp only [done]

theorem emit_tracks {e : RunEffect} (other : mode? e = none) (r : Run) :
    Obeys Tracks r (Act.emit e) := by
  intro c console
  simpa [modes, other] using console

theorem read_tracks (prompt : String) (typed : Typed) (r : Run) :
    Obeys Tracks r (onDisplay (Display.read prompt typed)) := by
  refine either_tracks (fun c => ?_) _ r
  have read := Console.read_tracks prompt typed.key typed.rest c
  have attempted : Obeys Console.Tracks c
      (Act.attempt (Console.read prompt typed.key typed.rest)) := read
  refine attempted.bind fun answer _ => ?_
  cases answer <;> exact Act.obeys_pure _

/-- The answer to a question is not looked at here. -/
theorem perform_ask (prompt : String) (typed : Typed) (r : Run) :
    (perform typed (.ask prompt) r).state = (onDisplay (Display.read prompt typed) r).state ∧
      (perform typed (.ask prompt) r).effects =
        (onDisplay (Display.read prompt typed) r).effects := by
  have asked : Display.perform typed (.ask prompt) =
      (Display.read prompt typed >>= fun _ => pure ()) := rfl
  unfold perform onDisplay
  simp only [Act.within_apply, asked, Act.bind_pure_const, and_self]

theorem perform_tracks (typed : Typed) (e : Effect) (r : Run) :
    Obeys Tracks r (perform typed e) := by
  have still : ∀ r, Obeys Tracks r (onDisplay (pure ())) := by
    intro r c console
    simpa [onDisplay] using console
  cases e with
  | line e => exact emit_tracks rfl r
  | pause p => exact emit_tracks rfl r
  | hook => exact still r
  | append text => exact either_tracks (Console.emit_tracks rfl) _ r
  | complain text => exact either_tracks (Console.emit_tracks rfl) _ r
  | clear | layout | status | draw => exact either_tracks (fun _ => Act.obeys_pure _) _ r
  | ask prompt =>
    obtain ⟨state, effects⟩ := perform_ask prompt typed r
    unfold Obeys
    rw [state, effects]
    exact read_tracks prompt typed r
  | resume => exact either_tracks Console.resume_tracks _ r
  | stop => exact either_tracks Console.stop_tracks _ r

theorem performAll_tracks (typed : Typed) (es : List Effect) (r : Run) :
    Obeys Tracks r (performAll typed es) :=
  performAll_obeys (fun e _ => perform_tracks typed e) r

/-- Monitoring leaves all else of the terminal as it is. -/
theorem onMonitor_tracks (typed : Typed) (x : Monitor.Do α) (r : Run) :
    Obeys Tracks r (onMonitor typed x) :=
  performAll_tracks typed _ { r with monitor := (x r.monitor).state }

theorem await_tracks (o : Occurrence) (r : Run) : Obeys Tracks r (await o) := by
  refine (emit_tracks rfl r).bind fun _ _ => ?_
  cases o with
  | scene x =>
    have heard : ∀ f r, Obeys Tracks r (modifySession f) := fun _ _ _ console => console
    have stored : ∀ f r, Obeys Tracks r (modifyDesk f) := fun _ _ _ console => console
    refine (heard _ _).bind fun _ _ => (stored _ _).bind fun _ _ => .get_bind ?_
    exact Act.obeys_pure _
  | _ => exact Act.obeys_pure _

theorem turn_tracks (o : Occurrence) (r : Run) : Obeys Tracks r (turn o) := by
  refine turn_obeys (fun _ => ?_) fun _ _ console => console
  exact (await_tracks o r).bind fun _ _ => onMonitor_tracks _ _ _

theorem loop_tracks (script : List Occurrence) (r : Run) : Obeys Tracks r (loop script) :=
  loop_obeys turn_tracks script r

/-- The display is a console on a terminal, the mode of which was found to be this. -/
structure OnTerminal (found : TerminalMode) (c : Console) : Prop where
  cooked : c.cooked = some found
  rare : c.rare = some found.raw

/-- The terminal hands on single keys. -/
def Raw (found : TerminalMode) (r : Run) : Prop :=
  ∃ c, r.display = .console c ∧ OnTerminal found c ∧ c.terminal = some found.raw

/-- The mode of the terminal is left alone. -/
abbrev Spares : Run → List RunEffect → Run → Prop := Act.Only (mode? · = none)

theorem either_spares {x : Console.Do α}
    (spared : ∀ c, Obeys (Act.Only (Console.mode? · = none)) c x) (y : Screen.Do α) (r : Run) :
    Obeys Spares r (onDisplay (Display.either x y)) := by
  unfold Obeys
  cases shown : r.display with
  | console c =>
    rw [either_apply shown]
    intro e he
    simp only [List.map_map, List.mem_map] at he
    obtain ⟨e', he', rfl⟩ := he
    exact spared c e' he'
  | screen s =>
    intro e he
    unfold onDisplay at he
    rw [Act.within_apply, shown] at he
    simp only [Display.either, List.map_map, List.mem_map] at he
    obtain ⟨e', _, rfl⟩ := he
    rfl

/-- Only questions and their ends, and the end of monitoring, set the mode. -/
theorem perform_spares {e : Effect} (work : e.isWork = true) (typed : Typed) (r : Run) :
    Obeys Spares r (perform typed e) := by
  cases e with
  | line | pause => simp [Obeys, Act.Only, perform, mode?]
  | hook => simp [Obeys, Act.Only, perform, Display.perform, onDisplay]
  | append | complain =>
    refine either_spares (fun c => ?_) _ r
    simp [Obeys, Act.Only, Console.append, Console.complain, Console.out, Console.mode?]
  | clear | layout | status | draw => exact either_spares (fun _ => Act.obeys_pure _) _ r
  | ask | resume | stop => contradiction

/-- Without a key there is no answer to wait for. -/
theorem ask_spares {typed : Typed} (none : typed.key = none) (prompt : String) (r : Run) :
    Obeys Spares r (perform typed (.ask prompt)) := by
  obtain ⟨state, effects⟩ := perform_ask prompt typed r
  unfold Obeys
  rw [state, effects]
  refine either_spares (fun c => ?_) _ r
  simp [Obeys, Act.Only, none, Console.read]

variable {found : TerminalMode} {r : Run}

/-- A key is always followed by a line. -/
theorem read_answers (prompt : String) (key : UInt8) (rest : String) (c : Console) :
    ∃ text, (Console.read prompt (some key) rest c).value = .ok text := by
  obtain ⟨terminal, pause, cooked, rare⟩ := c
  cases cooked with
  | none => exact ⟨_, rfl⟩
  | some m => exact ⟨_, rfl⟩

/-- The operator at a console says something or closes the input. -/
theorem reply_console {c : Console} {typed : Typed}
    (silent : ∀ text, (Display.console c).reply typed ≠ .line text) : typed.key = none := by
  cases key : typed.key with
  | none => rfl
  | some k =>
    obtain ⟨text, read⟩ := read_answers "" k typed.rest c
    have said : (Display.console c).reply typed = .line text := by
      simp [Display.reply, Display.read, Display.either, Act.attempt_bind, key, read]
    exact absurd said (silent text)

/-- A wait brings what the operator will turn out to have said. -/
theorem await_reply {o : Occurrence} {w : Wake} {reply : Reply}
    (awaited : (await o r).value = .ok (.woke w)) (said : w.reply = some reply) :
    reply = r.display.reply o.typed := by
  cases o with
  | scene x =>
    cases awaited
    obtain ⟨typed, there, rfl⟩ := Option.map_eq_some_iff.mp said
    simp [Occurrence.typed, there, modifySession, modifyDesk]
  | waitFailed | violated | crashed => cases awaited

theorem Raw.tracks {es : List RunEffect} {r' : Run} (raw : Raw found r) (tracks : Tracks r es r')
    (spared : modes es = []) : Raw found r' := by
  obtain ⟨c, console, on, terminal⟩ := raw
  refine ⟨_, tracks c console, ⟨on.cooked, on.rare⟩, ?_⟩
  simp [spared, terminal]

/-- From single keys to single keys, the mode set last is that one. -/
theorem Raw.back {es : List RunEffect} {r' : Run} (raw : Raw found r) (tracks : Tracks r es r')
    (raw' : Raw found r') : (modes es).getLast?.getD found.raw = found.raw := by
  obtain ⟨c, console, _, terminal⟩ := raw
  obtain ⟨c', console', _, terminal'⟩ := raw'
  have same := (tracks c console).symm.trans console'
  simp only [Display.console.injEq] at same
  subst same
  cases last : (modes es).getLast? with
  | none => rfl
  | some m => simpa [last] using terminal'

/-- The end of a question puts the terminal back. -/
theorem resume_raw (typed : Typed) {c : Console} (console : r.display = .console c)
    (on : OnTerminal found c) : Raw found (perform typed .resume r).state := by
  have shown := either_apply console Console.resume (pure ())
  refine ⟨{ c with terminal := some found.raw }, ?_, ⟨on.cooked, on.rare⟩, rfl⟩
  show (onDisplay (Display.either Console.resume (pure ())) r).state.display = _
  rw [shown]
  simp [Console.resume, on.rare, Console.setKnown, Console.setMode]

/-- What a turn does leaves the terminal in the mode for single keys, if the run goes on. -/
theorem performAll_raw {typed : Typed} {reply : Option Reply} {es : List Effect}
    (raw : Raw found r) (turned : Monitor.Turned reply es)
    (said : ∀ reply', reply = some reply' → (∀ text, reply' ≠ .line text) → typed.key = none)
    (shown : (performAll typed es r).value = .ok ()) : Raw found (performAll typed es r).state := by
  obtain ⟨before, rest, rfl, work, rfl | ⟨reply', there, asked⟩⟩ := turned
  · have tracks := performAll_tracks typed (before ++ []) r
    have spared : Obeys Spares r (performAll typed (before ++ [])) := by
      refine performAll_obeys (fun e he => ?_) r
      exact perform_spares (work e (by simpa using he)) typed
    exact raw.tracks tracks (modes_eq_nil.mpr spared)
  · cases asked with
    | answered prompt text work' =>
      obtain ⟨c, console, on, _⟩ := raw
      rw [← List.append_assoc, performAll_append] at shown ⊢
      obtain ⟨_, first, _⟩ := Act.bind_value_ok.mp shown
      rw [Act.bind_ok first, performAll_singleton]
      exact resume_raw typed (performAll_tracks typed _ r c console) ⟨on.cooked, on.rare⟩
    | unanswered prompt silent =>
      have tracks := performAll_tracks typed (before ++ [.ask prompt]) r
      have spared : Obeys Spares r (performAll typed (before ++ [.ask prompt])) := by
        refine performAll_obeys (fun e he => ?_) r
        rcases List.mem_append.mp he with earlier | last
        · exact perform_spares (work e earlier) typed
        · rw [List.mem_singleton.mp last]
          exact ask_spares (said reply' there silent) prompt
      exact raw.tracks tracks (modes_eq_nil.mpr spared)

theorem await_display (o : Occurrence) (r : Run) : (await o r).state.display = r.display := by
  cases o <;> rfl

theorem await_waits (o : Occurrence) (r : Run) :
    (await o r).effects = [.wait] ∧ ∃ wait, (await o r).value = .ok wait := by
  cases o <;> exact ⟨rfl, _, rfl⟩

theorem attend_raw {o : Occurrence} (raw : Raw found r) (goesOn : (attend o r).value = .ok none) :
    Raw found (attend o r).state := by
  obtain ⟨wait, awaited, served⟩ := Act.bind_value_ok.mp goesOn
  have same := await_display o r
  unfold attend
  rw [Act.bind_ok awaited]
  obtain ⟨stepped, shown⟩ := onMonitor_ok served
  obtain ⟨w, rfl, turned⟩ := Monitor.step_turned stepped
  refine performAll_raw ?_ turned ?_ shown
  · obtain ⟨c, console, rest⟩ := raw
    exact ⟨c, same.trans console, rest⟩
  · intro reply said silent
    obtain ⟨c, console, _⟩ := raw
    have replied := await_reply awaited said
    rw [console] at replied
    subst replied
    exact reply_console silent

theorem turn_raw {o : Occurrence} (raw : Raw found r) (goesOn : (turn o r).value = .ok none) :
    Raw found (turn o r).state := by
  cases quiet : r.monitor.desk.signalled with
  | true => simp [turn_of_signalled o quiet] at goesOn
  | false =>
    obtain ⟨value, _, state | state⟩ := turn_of_quiet o quiet
    · rw [state]
      exact attend_raw raw (value ▸ goesOn)
    · rw [state]
      exact attend_raw raw (value ▸ goesOn)

/-- Until the mode is set it is this one; and so it is at each wait. -/
def Held (m : TerminalMode) (es : List RunEffect) : Prop :=
  ∀ before after, es = before ++ .wait :: after → (modes before).getLast?.getD m = m

variable {m : TerminalMode} {es es' : List RunEffect}

theorem held_of_no_wait (none : .wait ∉ es) : Held m es := by
  rintro before after rfl
  simp at none

theorem held_cons_wait (none : .wait ∉ es) : Held m (.wait :: es) := by
  intro before after split
  cases before with
  | nil => rfl
  | cons e before =>
    obtain ⟨_, rfl⟩ := List.cons.inj split
    simp at none

theorem Held.append (held : Held m es) (back : (modes es).getLast?.getD m = m)
    (held' : Held m es') : Held m (es ++ es') := by
  intro before after split
  rcases List.append_eq_append_iff.mp split with ⟨more, rfl, rest⟩ | ⟨more, rfl, rest⟩
  · have later := held' more after rest
    rw [modes_append, List.getLast?_append]
    cases last : (modes more).getLast? with
    | none => simpa [last] using back
    | some m' => simpa [last] using later
  · cases more with
    | nil => simpa using back
    | cons e more =>
      obtain ⟨rfl, _⟩ := List.cons.inj rest
      exact held before more rfl

theorem onMonitor_no_wait (typed : Typed) (x : Monitor.Do α) (r : Run) :
    .wait ∉ (onMonitor typed x r).effects := by
  intro waits
  simpa using onMonitor_shown typed x r _ waits

theorem Held.append_quiet (held : Held m es) (none : .wait ∉ es') : Held m (es ++ es') := by
  intro before after split
  rcases List.append_eq_append_iff.mp split with ⟨more, rfl, rfl⟩ | ⟨more, rfl, rest⟩
  · simp at none
  · cases more with
    | nil =>
      obtain rfl : .wait :: after = es' := by simpa using rest
      simp at none
    | cons e more =>
      obtain ⟨rfl, _⟩ := List.cons.inj rest
      exact held before more rfl

/-- One turn waits at most once, at its beginning. -/
theorem turn_held (o : Occurrence) (r : Run) : Held m (turn o r).effects := by
  cases quiet : r.monitor.desk.signalled with
  | true =>
    rw [turn_of_signalled o quiet]
    exact held_of_no_wait (by simp)
  | false =>
    obtain ⟨waits, wait, awaited⟩ := await_waits o r
    rw [(turn_of_quiet o quiet).2.1, attend, Act.bind_ok awaited, waits]
    exact held_cons_wait (onMonitor_no_wait _ _ _)

/-- After a turn the run goes on as before or is at its end. -/
theorem turn_bind_held {o : Occurrence} {f : Option Cause → Do Cause} (raw : Raw found r)
    (stops : ∀ cause, f (some cause) = pure cause)
    (rest : ∀ r', Raw found r' → Held found.raw (f none r').effects) :
    Held found.raw ((turn o >>= f) r).effects := by
  have held := turn_held (m := found.raw) o r
  cases turned : (turn o r).value with
  | error e =>
    rw [Act.bind_error turned]
    exact held
  | ok cause =>
    rw [Act.bind_ok turned]
    cases cause with
    | some cause => simpa [stops] using held
    | none =>
      have raw' := turn_raw raw turned
      exact held.append (raw.back (turn_tracks o r) raw') (rest _ raw')

theorem runOut_held (n : Nat) (raw : Raw found r) : Held found.raw (runOut n r).effects := by
  induction n generalizing r with
  | zero => exact held_of_no_wait (by simp [runOut])
  | succ n ih => exact turn_bind_held raw (fun _ => rfl) fun r' raw' => ih raw'

theorem loop_held (script : List Occurrence) (raw : Raw found r) :
    Held found.raw (loop script r).effects := by
  induction script generalizing r with
  | nil => exact runOut_held _ raw
  | cons o rest ih => exact turn_bind_held raw (fun _ => rfl) fun r' raw' => ih raw'

/-- A console that is started on a terminal takes note of the mode that it finds. -/
theorem startUp_raw {c : Console} (console : r.display = .console c)
    (tty : c.terminal = some found) : (startUp r).value = .ok true ∧ Raw found (startUp r).state ∧
      ∃ hello, (startUp r).effects = [.signals true, .display (.console (.out hello)),
        .display (.console .discardInput), .display (.console (.setMode found.raw))] := by
  obtain ⟨terminal, pause, cooked, rare⟩ := c
  subst tty
  have started := either_apply console (do Console.start r.monitor.prompt; return true)
    (Screen.start r.monitor.prompt)
  have parts : startUp r = ⟨(onDisplay (Display.start r.monitor.prompt) r).value,
      (onDisplay (Display.start r.monitor.prompt) r).state,
      .signals true :: (onDisplay (Display.start r.monitor.prompt) r).effects⟩ := rfl
  rw [parts, Display.start, started]
  exact ⟨rfl, ⟨_, rfl, ⟨rfl, rfl⟩, rfl⟩, _, rfl⟩

/-- The console knows the mode that it has found. -/
def Knows (found : TerminalMode) (r : Run) : Prop :=
  ∃ c, r.display = .console c ∧ c.cooked = some found

theorem Raw.knows (raw : Raw found r) : Knows found r := by
  obtain ⟨c, console, on, _⟩ := raw
  exact ⟨c, console, on.cooked⟩

theorem Knows.tracks {es : List RunEffect} {r' : Run} (known : Knows found r)
    (tracks : Tracks r es r') : Knows found r' := by
  obtain ⟨c, console, cooked⟩ := known
  exact ⟨_, tracks c console, cooked⟩

theorem stop_restores (known : Knows found r) : ∃ r', onDisplay Display.stop r =
    ⟨.ok (), r', [.display (.console (.setMode found))]⟩ := by
  obtain ⟨⟨terminal, pause, cooked, rare⟩, console, rfl⟩ := known
  rw [Display.stop, either_apply console]
  exact ⟨_, rfl⟩

/-- However a run ends, the terminal is left as it was found, if the log can be closed. -/
theorem finish_restores (ended : Except Fault Cause) (known : Knows found r)
    (closes : ∀ reason, (finish ended r).value ≠ .error (.storage reason)) :
    (modes (finish ended r).effects).getLast? = some found ∧ .wait ∉ (finish ended r).effects := by
  cases closable : r.monitor.desk.log.closeRefusal? with
  | some reason =>
    obtain ⟨r', es, finished, _⟩ := finish_of_refusal closable ended
    exact absurd (by rw [finished]) (closes reason)
  | none =>
    obtain ⟨code, word, es, r', _, display, closing, finished⟩ := finish_of_closable closable ended
    have known' : Knows found r' := by
      unfold Knows
      rwa [display]
    obtain ⟨r'', stopped⟩ := stop_restores known'
    rw [finished, giveBack_of_stopped stopped]
    rcases closing with rfl | rfl <;> cases word <;> exact ⟨rfl, by simp⟩

/-- The terminal hands on single keys at each wait, and is left as it was found if the display was
used at all. -/
structure Kept (found : TerminalMode) (es : List RunEffect) : Prop where
  waiting : ∀ before after, es = before ++ .wait :: after →
    (modes before).getLast? = some found.raw
  restored : (∀ d, .display d ∉ es) ∨ (modes es).getLast? = some found

theorem kept_of_unused (unused : ∀ e ∈ es, e ≠ .wait ∧ ∀ d, e ≠ .display d) : Kept found es where
  waiting := by
    rintro before after rfl
    exact absurd rfl (unused .wait (by simp)).1
  restored := .inl fun d there => (unused _ there).2 d rfl

/-- What is done until the display has been started, then the loop, then the end. -/
theorem Held.kept (start : List RunEffect) {rest : List RunEffect} (held : Held found.raw es)
    (raw : (modes start).getLast? = some found.raw) (early : .wait ∉ start) (late : .wait ∉ rest)
    (restored : (modes rest).getLast? = some found) : Kept found (start ++ (es ++ rest)) where
  waiting := by
    intro before after split
    rcases List.append_eq_append_iff.mp split with ⟨more, rfl, later⟩ | ⟨more, rfl, earlier⟩
    · have last := held.append_quiet late more after later
      rw [modes_append, List.getLast?_append, raw]
      cases found : (modes more).getLast? with
      | none => rfl
      | some m => simpa [found] using last
    · cases more with
      | nil => simpa using raw
      | cons e more =>
        obtain ⟨rfl, _⟩ := List.cons.inj earlier
        simp at early
  restored := by
    right
    simp [restored]

/-- From the start of the display to the end. -/
theorem conduct_kept {c : Console} (console : r.display = .console c)
    (tty : c.terminal = some found) {script : List Occurrence}
    (closes : ∀ reason, (conduct script r).value ≠ .error (.storage reason))
    {early : List RunEffect} (prepared : ∀ e ∈ early, isPreparation e = true) :
    Kept found (early ++ (conduct script r).effects) := by
  obtain ⟨started, raw, hello, effects⟩ := startUp_raw console tty
  have watched : watch script r = ⟨(loop script (startUp r).state).value,
      (loop script (startUp r).state).state,
      (startUp r).effects ++ (loop script (startUp r).state).effects⟩ := by
    unfold watch
    rw [Act.bind_ok started]
    rfl
  have held := loop_held script raw
  have known : Knows found (loop script (startUp r).state).state :=
    raw.knows.tracks (loop_tracks script _)
  unfold conduct at closes ⊢
  rw [Act.attempt_bind, watched] at closes ⊢
  obtain ⟨restored, late⟩ := finish_restores _ known closes
  have kept := held.kept (early ++ (startUp r).effects) ?_ ?_ late restored
  · simpa only [List.append_assoc] using kept
  · rw [effects, modes_append, List.getLast?_append]
    rfl
  · intro waits
    rcases List.mem_append.mp waits with early | later
    · exact absurd (prepared _ early) (by decide)
    · simp [effects] at later

/-- Before the display starts there is no wait. -/
theorem kept_of_preparation (prepared : ∀ e ∈ es, isPreparation e = true) : Kept found es := by
  refine kept_of_unused fun e there => ⟨?_, ?_⟩
  · rintro rfl
    exact absurd (prepared _ there) (by decide)
  · rintro d rfl
    exact absurd (prepared _ there) Bool.false_ne_true

theorem monitorSource_kept {w : Surroundings} {o : Options} {fallback : Option Receiver}
    {script : List Occurrence} (headless : o.headless = true) (tty : w.terminal = some found)
    (closes : ∀ reason, (monitorSource w o script (initial w o fallback)).value ≠
      .error (.storage reason)) :
    Kept found (monitorSource w o script (initial w o fallback)).effects := by
  obtain ⟨display, prepared⟩ := launch_prepares w o (initial w o fallback)
  unfold monitorSource at closes ⊢
  cases launched : (launch w o (initial w o fallback)).value with
  | error e =>
    rw [Act.bind_error launched]
    exact kept_of_preparation prepared
  | ok code =>
    rw [Act.bind_ok launched] at closes ⊢
    cases code with
    | some code =>
      refine kept_of_preparation ?_
      simpa using prepared
    | none =>
      refine conduct_kept (c := { terminal := w.terminal, pause := Console.standardPause }) ?_ tty
        closes prepared
      rw [display]
      simp [initial, headless]

/-- A run whose display has been started may have come to be this one, in the middle of a turn as
well, where some of what the turn does has been shown. -/
inductive Underway (start : Run) : Run → Prop
  | started : Underway start (startUp start).state
  | turned {r : Run} (o : Occurrence) (earlier : Underway start r) : Underway start (turn o r).state
  | shown {r : Run} (typed : Typed) (es : List Effect) (earlier : Underway start r) :
      Underway start (performAll typed es r).state

theorem Underway.knows {start : Run} {c : Console} (console : start.display = .console c)
    (tty : c.terminal = some found) (underway : Underway start r) : Knows found r := by
  induction underway with
  | started =>
    obtain ⟨_, raw, _⟩ := startUp_raw console tty
    exact raw.knows
  | turned o _ ih => exact ih.tracks (turn_tracks o _)
  | shown typed es _ ih => exact ih.tracks (performAll_tracks typed es _)

/-- **The terminal's mode is kept and restored.** In a run without a screen whose input is a
terminal, whatever comes to pass and however the run ends, single keys are handed on whenever it
waits, and the mode set last is the one that was found, provided that the log can be closed. A turn
that is broken off in the middle makes no difference to the end. -/
theorem terminal_mode_kept {w : Surroundings} {args : List String} {o : Options}
    {script : List Occurrence} (read : Options.read args = .ok o) (headless : o.headless = true)
    (tty : w.terminal = some found) :
    ((∀ reason, (program w args script).exit ≠ .error (.storage reason)) →
      Kept found (program w args script).effects) ∧
    ∀ fallback r ended, Underway (launch w o (initial w o fallback)).state r →
      (∀ reason, (finish ended r).value ≠ .error (.storage reason)) →
      (modes (finish ended r).effects).getLast? = some found := by
  constructor
  · intro closes
    by_cases invoked : ∃ o fallback, Invokes args o fallback
    · obtain ⟨o', fallback, invoked⟩ := invoked
      obtain rfl := Except.ok.inj (read.symm.trans invoked.read)
      rw [invoked.program] at closes ⊢
      exact monitorSource_kept headless tty closes
    · simp only [not_exists] at invoked
      exact kept_of_preparation (program_uninvoked invoked w script)
  · intro fallback r ended underway closes
    have console : (launch w o (initial w o fallback)).state.display =
        .console { terminal := w.terminal, pause := Console.standardPause } := by
      rw [(launch_prepares w o (initial w o fallback)).1]
      simp [initial, headless]
    exact (finish_restores ended (underway.knows console tty) closes).1

/-- An operator at a terminal who gives a command that there is not, reads a sentence from a relay,
and quits; and one whose run is broken off while a command is typed. -/
theorem terminal_mode_kept_of_quit :
    let w : Surroundings := { hostname := "testhost", terminal := some {} }
    let o : Options := { headless := true, source := some "h:1" }
    let script : List Occurrence := [.key ⟨some 0x78, "\n"⟩,
      .data (Bytes.ofString "$GPGGA,1*4B\r\n"), .key ⟨some 0x71, "\n"⟩]
    let ending := program w ["-a", "h:1"] script
    let asking := (performAll ⟨some 0x71, "\n"⟩ [.ask "h:1"]
      (startUp (launch w o (initial w o none)).state).state).state
    Options.read ["-a", "h:1"] = .ok o ∧ ending.exit = .ok 0 ∧ ending.effects.count .wait = 3 ∧
      Kept {} ending.effects ∧
      Underway (launch w o (initial w o none)).state asking ∧
      (finish (.error .invariant) asking).value = .ok 1 ∧
      (modes (finish (.error .invariant) asking).effects).getLast? = some {} := by
  intro w o script ending asking
  have read : Options.read ["-a", "h:1"] = .ok o := by decide +kernel
  have quit : ending.exit = .ok 0 := by decide +kernel
  have waits : ending.effects.count .wait = 3 := by decide +kernel
  have underway : Underway (launch w o (initial w o none)).state asking := .shown _ _ .started
  have abandoned : (finish (.error .invariant) asking).value = .ok 1 := by decide +kernel
  obtain ⟨kept, restored⟩ := @terminal_mode_kept {} w _ o script read rfl rfl
  refine ⟨read, quit, waits, kept fun reason => ?_, underway, abandoned,
    restored none asking _ underway fun reason => ?_⟩
  · rw [quit]
    simp
  · rw [abandoned]
    simp

end Run
end GnssMonitor
