import Mathlib.Control.Monad.Basic
import GnssMonitor.Proofs.Display
import GnssMonitor.Proofs.Monitor.Work
import GnssMonitor.Proofs.Run.Ending
import GnssMonitor.Proofs.Run.Launch

/-! When all is let go of at the end of a run: the log, the display, the signals and the source.
Three things can keep something held: a source that cannot be reached once it is open, a log that
cannot be closed, and a screen that cannot be given back. -/

namespace GnssMonitor

open Act (Obeys)

/-- The source or the signals are let go of, or the signals taken. -/
def RunEffect.isHold : RunEffect → Bool
  | .line .close | .signals _ => true
  | _ => false

namespace Run

variable {α : Type} {r : Run}

/-- The display stands as it did, and nothing else is let go of. -/
def Holds (r : Run) (es : List RunEffect) (r' : Run) : Prop :=
  r'.display.standing = r.display.standing ∧ ∀ e ∈ es, e.isHold = false

instance : Act.Composes Holds where
  nothing _ := ⟨rfl, by simp⟩
  next := fun ⟨same, first⟩ ⟨same', second⟩ =>
    ⟨same'.trans same, List.forall_mem_append.mpr ⟨first, second⟩⟩

theorem onDisplay_holds {x : Display.Do α}
    (stands : (x r.display).state.standing = r.display.standing) :
    Obeys Holds r (onDisplay x) := by
  refine ⟨stands, ?_⟩
  intro e he
  obtain ⟨e', _, rfl⟩ := List.mem_map.mp he
  rfl

theorem perform_holds {e : Effect} (going : e ≠ .stop ∧ e ≠ .line .close) (typed : Typed)
    (r : Run) : Obeys Holds r (perform typed e) := by
  have shown := onDisplay_holds (Display.perform_standing going.1 typed r.display)
  cases e with
  | line l =>
    have open' : l ≠ .close := fun closes => going.2 (closes ▸ rfl)
    cases l <;> simp_all [Obeys, Holds, perform, RunEffect.isHold]
  | pause p => simp [Obeys, Holds, perform, RunEffect.isHold]
  | _ => exact shown

theorem performAll_holds {es : List Effect} (going : ∀ e ∈ es, e ≠ .stop ∧ e ≠ .line .close)
    (typed : Typed) (r : Run) : Obeys Holds r (performAll typed es) :=
  performAll_obeys (fun e there => perform_holds (going e there) typed) r

theorem attend_holds (o : Occurrence) (r : Run) : Obeys Holds r (attend o) := by
  have awaited : Obeys Holds r (await o) := by
    cases o <;> simp [Obeys, Holds, await, modifySession, modifyDesk, RunEffect.isHold]
  refine awaited.bind fun wait _ => ?_
  have served := Monitor.step_obeys Monitor.serves_holds wait (await o r).state.monitor
  exact performAll_holds served o.typed (withMonitor _ (await o r).state)

theorem turn_holds (o : Occurrence) (r : Run) : Obeys Holds r (turn o) :=
  turn_obeys (fun _ => attend_holds o r) fun _ => ⟨rfl, by simp⟩

/-- Nothing is let go of while the loop runs. -/
theorem loop_holds (script : List Occurrence) (r : Run) : Obeys Holds r (loop script) :=
  loop_obeys turn_holds script r

/-- From the start of the display on, the signals are taken and nothing is let go of. -/
theorem watch_holds (script : List Occurrence) (r : Run) :
    (watch script r).state.display.standing = r.display.inUse.standing ∧
      ∃ es, (watch script r).effects = .signals true :: es ∧ ∀ e ∈ es, e.isHold = false := by
  have stands := Display.start_standing r.monitor.prompt r.display
  have shown : ∀ e ∈ (onDisplay (Display.start r.monitor.prompt) r).effects, e.isHold = false := by
    intro e he
    obtain ⟨e', _, rfl⟩ := List.mem_map.mp he
    rfl
  have started : startUp r = ⟨(onDisplay (Display.start r.monitor.prompt) r).value,
      (onDisplay (Display.start r.monitor.prompt) r).state,
      .signals true :: (onDisplay (Display.start r.monitor.prompt) r).effects⟩ := rfl
  unfold watch
  cases there : (startUp r).value with
  | error e =>
    rw [Act.bind_error there, started]
    exact ⟨stands, _, rfl, shown⟩
  | ok usable =>
    rw [Act.bind_ok there, started]
    cases usable with
    | false => exact ⟨stands, _, rfl, by simpa using shown⟩
    | true =>
      obtain ⟨same, going⟩ := loop_holds script (onDisplay (Display.start r.monitor.prompt) r).state
      exact ⟨same.trans stands, _, rfl, List.forall_mem_append.mpr ⟨shown, going⟩⟩

/-- What is done to the source and the signals. -/
def holds (es : List RunEffect) : List RunEffect := es.filter (·.isHold)

@[simp] theorem holds_append (es es' : List RunEffect) :
    holds (es ++ es') = holds es ++ holds es' :=
  List.filter_append ..

theorem holds_eq_nil {es : List RunEffect} (going : ∀ e ∈ es, e.isHold = false) :
    holds es = [] := by
  simpa [holds] using going

theorem stop_apply (r : Run) : onDisplay Display.stop r = ⟨(Display.stop r.display).value,
    { r with display := (Display.stop r.display).state },
    (Display.stop r.display).effects.map .display⟩ := rfl

theorem holds_display (es : List DisplayEffect) : holds (es.map .display) = [] := by
  apply holds_eq_nil
  intro e he
  obtain ⟨e', _, rfl⟩ := List.mem_map.mp he
  rfl

/-- The end of a run whose log can be closed and whose display can be given back. -/
theorem finish_of_free (closable : r.monitor.desk.log.closeRefusal? = none)
    (yields : r.display.Yields) (ended : Except Fault Cause) :
    (finish ended r).state.monitor.desk.log.isOpen = false ∧
    (finish ended r).state.display.AtRest ∧
    ((finish ended r).state.monitor.session.endpoint = none ∨
      (finish ended r).value = .ok 1 ∧ .err violationMessage ∈ (finish ended r).effects) ∧
    ∃ closing, (closing = [] ∨ closing = [.line .close]) ∧
      holds (finish ended r).effects = closing ++ [.signals false] := by
  obtain ⟨code, word, es, r', closed, same, closing, finished⟩ := finish_of_closable closable ended
  obtain ⟨stopped, rest⟩ := Display.stop_of_yields (same ▸ yields)
  have given := stop_apply r'
  rw [stopped] at given
  rw [finished, giveBack_of_stopped given]
  refine ⟨closed.log, rest, ?_, es, closing, ?_⟩
  · rcases closed.source with away | ⟨rfl, rfl⟩
    · exact .inl away
    · exact .inr ⟨rfl, by simp⟩
  · have kept : holds es = es := by rcases closing with rfl | rfl <;> rfl
    have last : holds (.signals false :: (word.map .err).toList) = [.signals false] := by
      cases word <;> rfl
    rw [holds_append, holds_append, kept, holds_display, last, List.nil_append]

/-- The end of a run that something keeps a hold on. -/
theorem finish_of_held
    (held : ¬ (r.monitor.desk.log.closeRefusal? = none ∧ r.display.Yields))
    (ended : Except Fault Cause) : holds (finish ended r).effects = [] ∨
      holds (finish ended r).effects = [.line .close] := by
  cases closable : r.monitor.desk.log.closeRefusal? with
  | some reason =>
    obtain ⟨r', es, finished, _, closing⟩ := finish_of_refusal closable ended
    rw [finished]
    rcases closing with rfl | rfl <;> simp [holds, RunEffect.isHold]
  | none =>
    obtain ⟨code, word, es, r', _, same, closing, finished⟩ := finish_of_closable closable ended
    have stuck : ¬ r'.display.Yields := fun yields => held ⟨closable, same ▸ yields⟩
    have given := stop_apply r'
    rw [Display.stop_of_not_yields stuck] at given
    rw [finished, giveBack_of_stuck given, holds_append, holds_display]
    rcases closing with rfl | rfl <;> simp [holds, RunEffect.isHold]

/-- All is let go of at the end of a run, but for the source of one that can no longer be
trusted. -/
structure Released (out : Outcome RunEffect Run Nat) : Prop where
  log : out.state.monitor.desk.log.isOpen = false
  display : out.state.display.AtRest
  signals : .signals true ∈ out.effects → .signals false ∈ out.effects
  source : out.state.monitor.session.endpoint = none ∨
    out.value = .ok 1 ∧ .err violationMessage ∈ out.effects

/-- The signals are taken, the source is closed and the signals are left, each once at most. -/
def OnceEach (es : List RunEffect) : Prop :=
  (holds es).Sublist [.signals true, .line .close, .signals false]

theorem mem_holds {recorded : Bool} {es : List RunEffect} :
    .signals recorded ∈ holds es ↔ .signals recorded ∈ es := by
  simp [holds, RunEffect.isHold]

theorem isHold_of_preparation {e : RunEffect} (early : isPreparation e = true) :
    e.isHold = false := by
  cases e with
  | line l => cases l <;> first | rfl | contradiction
  | opening | display | pause | wait | out | err => rfl
  | signals => contradiction

/-- A run that has taken the signals and nothing since is let go of by its end exactly if the log
can be closed and the display given back. -/
theorem finish_released_iff {begun : List RunEffect} (before : holds begun = [.signals true])
    (ended : Except Fault Cause) :
    let out : Outcome RunEffect Run Nat :=
      ⟨(finish ended r).value, (finish ended r).state, begun ++ (finish ended r).effects⟩
    (Released out ↔ r.monitor.desk.log.closeRefusal? = none ∧ r.display.Yields) ∧
      OnceEach out.effects := by
  intro out
  have all : holds out.effects = .signals true :: holds (finish ended r).effects := by
    rw [holds_append, before]
    rfl
  by_cases free : r.monitor.desk.log.closeRefusal? = none ∧ r.display.Yields
  · obtain ⟨logged, rest, source, closing, closed, held⟩ := finish_of_free free.1 free.2 ended
    rw [held] at all
    constructor
    · refine iff_of_true ⟨logged, rest, fun _ => ?_, ?_⟩ free
      · rw [← mem_holds, all]
        simp
      · exact source.imp_right fun ⟨code, word⟩ => ⟨code, List.mem_append_right _ word⟩
    · unfold OnceEach
      rw [all]
      rcases closed with rfl | rfl <;> decide
  · have closed := finish_of_held free ended
    constructor
    · refine iff_of_false (fun released => ?_) free
      have taken : .signals true ∈ out.effects := mem_holds.mp (by simp [all])
      have left := mem_holds.mpr (released.signals taken)
      rw [all] at left
      rcases closed with closed | closed <;> simp [closed] at left
    · unfold OnceEach
      rw [all]
      rcases closed with closed | closed <;> rw [closed] <;> decide

/-- Of a run that is under way so much is held: the signals are taken. -/
theorem watch_taken (script : List Occurrence) {early : List RunEffect}
    (prepared : ∀ e ∈ early, isPreparation e = true) :
    holds (early ++ (watch script r).effects) = [.signals true] := by
  obtain ⟨-, es, watched, going⟩ := watch_holds script r
  have quiet : holds early = [] := holds_eq_nil fun e he => isHold_of_preparation (prepared e he)
  have first : holds (.signals true :: es) = .signals true :: holds es := rfl
  rw [holds_append, quiet, watched, first, holds_eq_nil going]
  rfl

theorem conduct_released_iff (script : List Occurrence) {early : List RunEffect}
    (prepared : ∀ e ∈ early, isPreparation e = true) :
    (Released ⟨(conduct script r).value, (conduct script r).state,
        early ++ (conduct script r).effects⟩ ↔
      (watch script r).state.monitor.desk.log.closeRefusal? = none ∧ r.display.inUse.Yields) ∧
    OnceEach (early ++ (conduct script r).effects) := by
  obtain ⟨same, -⟩ := watch_holds script r
  have yields : (watch script r).state.display.Yields ↔ r.display.inUse.Yields := by
    unfold Display.Yields
    rw [same]
  have conducted : conduct script r = ⟨(finish (watch script r).value (watch script r).state).value,
      (finish (watch script r).value (watch script r).state).state, (watch script r).effects ++
        (finish (watch script r).value (watch script r).state).effects⟩ := rfl
  rw [conducted, ← yields]
  dsimp only
  rw [← List.append_assoc]
  exact finish_released_iff (watch_taken script prepared) (watch script r).value

/-- The screen, if it comes to be in use, can be given back. -/
def Restorable (w : Surroundings) (o : Options) : Prop :=
  o.headless = false → (w.screen.started || w.screen.available) = true → "keypad" ∉ w.screen.refused

theorem initial_yields_iff (w : Surroundings) (o : Options) (fallback : Option Receiver) :
    (initial w o fallback).display.inUse.Yields ↔ Restorable w o := by
  unfold Restorable initial Display.Yields
  by_cases headless : o.headless = true
  · simp [headless, Display.inUse, Display.standing]
  · simp [headless, Display.inUse, Display.standing]

/-- **What is let go of.** Once the source is open, a run ends with everything let go of exactly if
the source can be reached, the screen can be given back and the log can be closed; and whatever
happens, the signals are taken, the source is closed and the signals are left once at most. -/
theorem released_iff {w : Surroundings} {args : List String} {o : Options}
    {fallback : Option Receiver} (invoked : Invokes args o fallback)
    (opened : (launch w o (initial w o fallback)).state.IsOpen) (script : List Occurrence) :
    let out := monitorSource w o script (initial w o fallback)
    program w args script = ⟨out.value, out.effects, out.state.monitor.desk.log.files⟩ ∧
      (Released out ↔ Reachable w o ∧ Restorable w o ∧
        (watch script
          (launch w o (initial w o fallback)).state).state.monitor.desk.log.closeRefusal? = none) ∧
      OnceEach out.effects := by
  refine ⟨invoked.program w script, ?_⟩
  obtain ⟨same, prepared⟩ := launch_prepares w o (initial w o fallback)
  have restorable := initial_yields_iff w o fallback
  rw [← same] at restorable
  unfold monitorSource
  obtain ⟨goesOn, reached⟩ | ⟨⟨e, stopped⟩, unreached⟩ := launch_cases rfl opened
  · rw [Act.bind_ok goesOn]
    obtain ⟨released, once⟩ := conduct_released_iff script prepared
    refine ⟨released.trans ?_, once⟩
    rw [restorable]
    exact ⟨fun ⟨closable, screen⟩ => ⟨reached, screen, closable⟩,
      fun ⟨_, screen, closable⟩ => ⟨closable, screen⟩⟩
  · rw [Act.bind_error stopped]
    constructor
    · refine iff_of_false (fun released => ?_) fun all => unreached all.1
      rcases released.source with away | ⟨code, _⟩
      · rw [IsOpen, away] at opened
        cases opened
      · cases code
    · unfold OnceEach
      rw [holds_eq_nil fun e he => isHold_of_preparation (prepared e he)]
      exact List.nil_sublist _

/-- A relay is read and left on purpose, with a log on a disk. -/
theorem released_iff_of_quit :
    let w : Surroundings := { hostname := "testhost", terminal := some {} }
    let o : Options := { headless := true, logFile := .value "o.log", source := some "h:1" }
    let script : List Occurrence :=
      [.data (Bytes.ofString "$GPGGA,1*4B\r\n"), .key ⟨some 0x71, "\n"⟩]
    let out := monitorSource w o script (initial w o none)
    Invokes ["-a", "-l", "o.log", "h:1"] o none ∧ (launch w o (initial w o none)).state.IsOpen ∧
      out.value = .ok 0 ∧ Released out ∧ OnceEach out.effects := by
  intro w o script out
  have invoked : Invokes ["-a", "-l", "o.log", "h:1"] o none :=
    ⟨by decide +kernel, by decide, rfl, rfl⟩
  have opened : (launch w o (initial w o none)).state.IsOpen := by
    unfold IsOpen
    decide +kernel
  obtain ⟨_, released, once⟩ := released_iff invoked opened script
  have asked : IsWatch o (Bytes.ofString "?WATCH=\x7b\"raw\":2,\"pps\":true\x7d\r\n") := by
    unfold IsWatch
    decide +kernel
  refine ⟨invoked, opened, by decide +kernel, released.mpr ⟨?_, ?_, ?_⟩, once⟩
  · exact .inr ⟨by decide, _, asked⟩
  · intro screen
    cases screen
  · decide +kernel

/-- A request for packets that is not ASCII stops a run with its source open; a log that has no
room to be closed stops one with the terminal and the signals taken. -/
theorem unreleased_of_request_and_of_full_log :
    let w : Surroundings := { hostname := "testhost", terminal := some {} }
    let foreign : Options :=
      { headless := true, logFile := .value "o.log", source := some "h:1:dév" }
    let full : Options :=
      { headless := true, logFile := .value "/dev/full", source := some "/dev/ttyUSB0" }
    let script : List Occurrence := [.data (Bytes.ofString "$GPGGA,1*4B\r\n"), .signal]
    (Invokes ["-a", "-l", "o.log", "h:1:dév"] foreign none ∧
      (launch w foreign (initial w foreign none)).state.IsOpen ∧
      ¬ Released (monitorSource w foreign [] (initial w foreign none))) ∧
    Invokes ["-a", "-l", "/dev/full", "/dev/ttyUSB0"] full none ∧
      (launch w full (initial w full none)).state.IsOpen ∧
      ¬ Released (monitorSource w full script (initial w full none)) := by
  intro w foreign full script
  have opened : ∀ o ∈ [foreign, full], (launch w o (initial w o none)).state.IsOpen := by
    unfold IsOpen
    decide +kernel
  refine ⟨⟨⟨by decide +kernel, by decide, rfl, rfl⟩, opened _ (by simp), fun released => ?_⟩,
    ⟨by decide +kernel, by decide, rfl, rfl⟩, opened _ (by simp), fun released => ?_⟩
  · have held : (monitorSource w foreign []
        (initial w foreign none)).state.monitor.desk.log.isOpen = true := by decide +kernel
    rw [released.log] at held
    cases held
  · have left := released.signals (by decide +kernel)
    revert left
    decide +kernel

end Run
end GnssMonitor
