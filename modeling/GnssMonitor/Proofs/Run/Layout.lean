import GnssMonitor.Proofs.Desk.Switching
import GnssMonitor.Proofs.Display.Layout
import GnssMonitor.Proofs.Monitor.Loop

/-! What there is on the screen of a run once a handler has been let on. Whether there is room for
the handler is decided at the desk, by one row beside it; the layout takes three. -/

namespace GnssMonitor

open Act (Obeys)
open Area (band)

namespace Effect

/-- The rows for the handler once this has been shown. -/
def room (before : Int) : Effect → Int
  | .layout rows => rows
  | _ => before

/-- If this lays the display out at all, it is with so many rows for the handler. -/
def Lays (rows : Int) (e : Effect) : Prop := e = .layout rows ∨ ∀ k, e.room k = k

theorem foldl_room {rows : Int} {es : List Effect} (lays : ∀ e ∈ es, e.Lays rows) (k : Int) :
    es.foldl room k = if .layout rows ∈ es then rows else k := by
  induction es generalizing k with
  | nil => rfl
  | cons e es ih =>
    rw [List.foldl_cons, ih fun e' there => lays e' (List.mem_cons_of_mem _ there)]
    obtain rfl | same := lays e List.mem_cons_self
    · simp [room]
    · have other : e ≠ .layout rows := by
        rintro rfl
        have fixed := same (rows + 1)
        simp only [room] at fixed
        omega
      simp [same, other.symm]

end Effect

namespace Desk

variable {d : Desk} {h : Handler} {r : Receiver} {rows : Int}

/-- The display is laid out with so many rows for the handler, if at all. -/
abbrev Lays (rows : Int) : Desk → List Effect → Desk → Prop := Act.Only (Effect.Lays rows)

theorem emit_lays {e : Effect} (lays : e.Lays rows) (d : Desk) : Obeys (Lays rows) d (Act.emit e) := by
  simpa [Obeys, Act.Only] using lays

theorem modify_lays (f : Desk → Desk) (d : Desk) : Obeys (Lays rows) d (modify f) := by
  simp [Obeys, Act.Only]

theorem drawAll_lays (ops : List WindowOp) (d : Desk) : Obeys (Lays rows) d (drawAll ops) := by
  refine .get_bind ?_
  split
  · exact Act.obeys_pure ()
  · have drawn : Obeys (Lays rows) d (Act.emitAll (ops.map .draw)) := by
      intro e there
      obtain ⟨op, _, rfl⟩ := List.mem_map.mp there
      exact .inr fun _ => rfl
    exact drawn.bind fun _ _ => modify_lays _ _

theorem leave_lays (h : Handler) (d : Desk) : Obeys (Lays rows) d (leave h) := by
  unfold leave
  split
  · refine (emit_lays (.inr fun _ => rfl) d).bind fun _ _ => ?_
    split
    · exact drawAll_lays _ _
    · exact Act.obeys_pure ()
  · exact Act.obeys_pure ()

theorem enter_lays (h : Handler) (d : Desk) : Obeys (Lays rows) d (enter h) := by
  unfold enter
  split
  · exact Act.obeys_pure true
  · refine (emit_lays (.inr fun _ => rfl) d).bind fun _ _ => ?_
    split
    · exact .get_bind ((modify_lays _ _).bind fun _ _ => Act.obeys_pure _)
    · exact Act.obeys_pure _

/-- A handler that is let on has the display laid out with its own rows. -/
theorem occupy_lays (h : Handler) (s : Session) (d : Desk) :
    Obeys (Lays h.rows) d (occupy h s) ∧ .layout h.rows ∈ (occupy h s d).effects := by
  let laid : Desk := (layOut h.rows { d with active := some h }).state
  let rest : Do Unit := do
    if !(← enter h) then complain "Internal initialization failed."
    Act.emit (.status ((← get).statusText s))
  have lays : Obeys (Lays h.rows) laid rest := by
    refine (enter_lays h laid).bind fun entered _ => ?_
    cases entered with
    | true => exact .get_bind (emit_lays (.inr fun _ => rfl) _)
    | false =>
      refine (emit_lays (.inr fun _ => rfl) _).bind fun _ _ => ?_
      exact .get_bind (emit_lays (.inr fun _ => rfl) _)
  have done : (occupy h s d).effects = .clear :: .layout h.rows :: (rest laid).effects := rfl
  unfold Obeys Lays Act.Only
  rw [done]
  refine ⟨List.forall_mem_cons.mpr ⟨.inr fun _ => rfl, ?_⟩, by simp⟩
  exact List.forall_mem_cons.mpr ⟨.inl rfl, lays⟩

theorem install_lays (h : Handler) (s : Session) (d : Desk) :
    Obeys (Lays h.rows) d (install h s) ∧ .layout h.rows ∈ (install h s d).effects := by
  unfold install Obeys
  rw [Act.get_bind]
  cases d.active with
  | none => exact occupy_lays h s d
  | some old =>
    obtain ⟨_, left⟩ := leave_answers old d
    refine ⟨Obeys.bind (leave_lays old d) fun _ _ => (occupy_lays h s _).1, ?_⟩
    dsimp only
    rw [Act.bind_ok left]
    exact List.mem_append_right _ (occupy_lays h s _).2

/-- A handler that is not refused has its rows and one more, and gets its layout. -/
theorem switchTo_admitted (known : d.registry.resolve r.name = some h) {s : Session}
    (admitted : .complain s!"{h.name} requires {h.columns}x{h.rows + 1} screen" ∉
      (switchTo r s d).effects) :
    h.rows + 1 ≤ d.surface.rows ∧ Obeys (Lays h.rows) d (switchTo r s) ∧
      .layout h.rows ∈ (switchTo r s d).effects := by
  unfold switchTo Obeys at *
  rw [Act.get_bind] at admitted ⊢
  simp only [known] at admitted ⊢
  by_cases room : d.hasRoom h
  · obtain ⟨_, installed⟩ := install_answers h s d
    simp only [room, if_true]
    rw [Act.bind_ok installed, Act.pure_apply, List.append_nil]
    refine ⟨?_, install_lays h s d⟩
    simp only [hasRoom, Bool.and_eq_true, decide_eq_true_eq] at room
    exact room.1
  · simp [room, complain] at admitted

end Desk

namespace Run

/-- What has been done on the screen. -/
def drawn (es : List RunEffect) : List ScreenEffect :=
  es.filterMap fun
    | .display (.screen e) => some e
    | _ => none

theorem drawn_append (es es' : List RunEffect) : drawn (es ++ es') = drawn es ++ drawn es' :=
  List.filterMap_append

theorem drawn_screen (es : List ScreenEffect) :
    drawn ((es.map .screen).map .display) = es := by
  simp [drawn, List.filterMap_map, Function.comp_def]

/-- The display is a screen of this size, with so many rows for the handler. -/
def LaidOut (height width room : Int) (log : List RunEffect) (r : Run) : Prop :=
  ∃ s, r.display = .screen s ∧ s.LaidOut height width room (drawn log)

variable {α : Type} {height width room room' : Int} {log : List RunEffect} {r : Run}

/-- What a screen goes through by being shown something is all that there is to its layout. -/
theorem LaidOut.shown (laid : LaidOut height width room log r) {x : Display.Do α}
    {T : Screen → List ScreenEffect → Screen → Prop} (shows : Obeys (Display.Shows T) r.display x)
    (lays : ∀ s es s', T s es s' → ∀ log, Screen.LaidOut height width room log s →
      Screen.LaidOut height width room' (log ++ es) s') :
    LaidOut height width room' (log ++ (onDisplay x r).effects) (onDisplay x r).state := by
  obtain ⟨s, screen, laid⟩ := laid
  unfold Obeys at shows
  rw [screen] at shows
  obtain ⟨s', es, state, effects, done⟩ := shows
  unfold onDisplay
  rw [Act.within_apply, screen, effects]
  refine ⟨s', state, ?_⟩
  rw [drawn_append, drawn_screen]
  exact lays _ _ _ done _ laid

theorem perform_laidOut (laid : LaidOut height width room log r) (typed : Typed) (e : Effect) :
    LaidOut height width (e.room room) (log ++ (perform typed e r).effects)
      (perform typed e r).state := by
  have undrawn {e : RunEffect} (other : drawn [e] = []) :
      LaidOut height width room (log ++ [e]) r := by
    obtain ⟨s, screen, laid⟩ := laid
    exact ⟨s, screen, by rwa [drawn_append, other, List.append_nil]⟩
  cases e with
  | line | pause => exact undrawn rfl
  | layout rows =>
    have anew (s : Screen) : Obeys (fun s es s' => ∀ log, Screen.LaidOut height width room log s →
        Screen.LaidOut height width rows (log ++ es) s') s (Screen.layOut rows) :=
      fun _ laid => Screen.layOut_laidOut laid.toHeaded laid.rows rows
    exact laid.shown (Display.either_shows anew _ _) fun _ _ _ lays => lays
  | stop =>
    exact laid.shown (Display.either_shows Screen.stop_preserves _ _) fun _ _ _ keeps => keeps
  | _ =>
    refine laid.shown (Display.perform_shows ?_ ?_ typed r.display) fun _ _ _ =>
      Screen.Stays.preserves
    · simp
    · simp

/-- However much is shown, the latest layout is the one on the screen; where it was stopped, the
latest so far. -/
theorem performAll_laidOut (laid : LaidOut height width room log r) (typed : Typed)
    (es : List Effect) : ∃ before after, es = before ++ after ∧
      ((performAll typed es r).value = .ok () → after = []) ∧
      LaidOut height width (before.foldl Effect.room room) (log ++ (performAll typed es r).effects)
        (performAll typed es r).state := by
  induction es generalizing r log room with
  | nil => exact ⟨[], [], rfl, fun _ => rfl, by simpa [performAll] using laid⟩
  | cons e es ih =>
    have first := perform_laidOut laid typed e
    rw [performAll]
    cases shown : (perform typed e r).value with
    | error fault =>
      -- a layout that is stopped has made its windows before
      rw [Act.bind_error shown]
      exact ⟨[e], es, rfl, by simp, first⟩
    | ok u =>
      obtain ⟨before, after, rfl, whole, rest⟩ := ih first
      rw [Act.bind_ok shown, ← List.append_assoc]
      exact ⟨e :: before, after, rfl, whole, rest⟩

variable {s : Screen} {m : Monitor} {receiver : Receiver} {h : Handler} {prompt : String}
  {earlier : List Effect} {typed : Typed}

/-- The display from its start on, with all that has been shown up to now. -/
def startAndShow (prompt : String) (earlier : List Effect) (typed : Typed) : Do Bool := do
  if ← onDisplay (Display.start prompt) then
    performAll typed earlier
    return true
  else return false

/-- Changes to the handler of a receiver and shows it. -/
def showSwitch (typed : Typed) (receiver : Receiver) : Do Bool := do
  onMonitor typed (Monitor.onDesk (Desk.switchTo receiver (← get).monitor.session))

theorem start_laidOut (started : (onDisplay (Display.start prompt) ⟨m, .screen s⟩).value =
    .ok true) : LaidOut s.rows s.columns 0 (onDisplay (Display.start prompt) ⟨m, .screen s⟩).effects
      (onDisplay (Display.start prompt) ⟨m, .screen s⟩).state := by
  refine ⟨(Screen.start prompt s).state, rfl, ?_⟩
  have effects : (onDisplay (Display.start prompt) ⟨m, .screen s⟩).effects =
      ((Screen.start prompt s).effects.map .screen).map .display := rfl
  rw [effects, drawn_screen]
  exact Screen.start_laidOut started

/-- From the start on, the monitor is as it was and the windows are those of the latest layout. -/
theorem startAndShow_laidOut
    (ready : (startAndShow prompt earlier typed ⟨m, .screen s⟩).value = .ok true) :
    (startAndShow prompt earlier typed ⟨m, .screen s⟩).state.monitor = m ∧
      LaidOut s.rows s.columns (earlier.foldl Effect.room 0)
        (startAndShow prompt earlier typed ⟨m, .screen s⟩).effects
        (startAndShow prompt earlier typed ⟨m, .screen s⟩).state := by
  unfold startAndShow at ready ⊢
  obtain ⟨started, running, ready⟩ := Act.bind_value_ok.mp ready
  rw [Act.bind_ok running]
  cases started with
  | false => simp at ready
  | true =>
    simp only [if_true] at ready ⊢
    obtain ⟨_, shown, _⟩ := Act.bind_value_ok.mp ready
    obtain ⟨before, after, rfl, whole, laid⟩ :=
      performAll_laidOut (start_laidOut running) typed earlier
    rw [Act.bind_ok shown, Act.pure_apply, List.append_nil]
    obtain rfl := whole shown
    exact ⟨performAll_displays typed _ _, by simpa using laid⟩

/-- A handler that is let on has its rows on the screen, unless showing it is stopped before. -/
theorem showSwitch_laidOut (typed : Typed) (laid : LaidOut height width room log r)
    (known : r.monitor.desk.registry.resolve receiver.name = some h)
    (admitted : .complain s!"{h.name} requires {h.columns}x{h.rows + 1} screen" ∉
      (Desk.switchTo receiver r.monitor.session r.monitor.desk).effects) :
    ∃ room', (room' = h.rows ∨ room' = room ∧ (showSwitch typed receiver r).value ≠ .ok true) ∧
      LaidOut height width room' (log ++ (showSwitch typed receiver r).effects)
        (showSwitch typed receiver r).state := by
  let switched := Monitor.onDesk (Desk.switchTo receiver r.monitor.session) r.monitor
  have effects : (Desk.switchTo receiver r.monitor.session r.monitor.desk).effects =
      switched.effects := (List.map_id _).symm
  obtain ⟨-, lays, there⟩ := Desk.switchTo_admitted known admitted
  unfold Obeys at lays
  rw [effects] at lays there
  have laid' : LaidOut height width room log (r.withMonitor switched.state) := laid
  obtain ⟨before, after, all, whole, done⟩ := performAll_laidOut laid' typed switched.effects
  have early : ∀ e ∈ before, e.Lays h.rows := fun e here =>
    lays e (all ▸ List.mem_append_left _ here)
  rw [Effect.foldl_room early] at done
  refine ⟨_, ?_, done⟩
  split
  · exact .inl rfl
  · rename_i short
    refine .inr ⟨rfl, fun shown => short ?_⟩
    obtain rfl := whole (onMonitor_ok shown).2
    rwa [all, List.append_nil] at there

/-- **A handler is let on with one row to spare, and its layout takes three.** So what is on the
screen then fits it just when the handler leaves that much; on a screen with one or two rows more
than the handler, the packets are off it, though no two windows share a cell. The handler gets its
layout unless showing the change is stopped before. -/
theorem admitted_layout_fits_iff (wide : 0 < s.columns) (sized : m.desk.surface.rows = s.rows)
    (ready : (startAndShow prompt earlier typed ⟨m, .screen s⟩).value = .ok true)
    (known : m.desk.registry.resolve receiver.name = some h)
    (admitted : .complain s!"{h.name} requires {h.columns}x{h.rows + 1} screen" ∉
      (Desk.switchTo receiver m.session m.desk).effects) :
    let before := startAndShow prompt earlier typed ⟨m, .screen s⟩
    let done := showSwitch typed receiver before.state
    h.rows + 1 ≤ s.rows ∧ ∃ s' room, done.state.display = .screen s' ∧
      (room = h.rows ∨ room = earlier.foldl Effect.room 0 ∧ done.value ≠ .ok true) ∧
      let areas := s'.areas (drawn (before.effects ++ done.effects))
      areas = Screen.plan s.rows s.columns room ∧
      (Fits s.rows areas ↔ 0 ≤ room ∧ room + 3 ≤ s.rows) ∧
      (0 ≤ room → areas.Pairwise Area.Apart) := by
  intro before done
  obtain ⟨same, laid⟩ := startAndShow_laidOut ready
  obtain ⟨enough, -⟩ := Desk.switchTo_admitted known admitted
  rw [← same] at known admitted
  obtain ⟨room, which, s', screen, laid'⟩ := showSwitch_laidOut typed laid known admitted
  refine ⟨sized ▸ enough, s', room, screen, which, ?_⟩
  rw [laid'.areas_eq]
  exact ⟨rfl, Screen.plan_fits_iff wide, Screen.plan_apart⟩

/-- A screen of so many rows, and a monitor that knows of it. -/
def facing (rows : Int) : Run :=
  ⟨(Session.closed (.relay "host" "2947" none), { hostname := "host", surface.rows := rows }),
    .screen { rows }⟩

/-- The handler of sentences on the screen that it is made for. -/
theorem panel_fits_on_standard_screen :
    let h := Handler.panelFor .nmea0183 false
    let before := startAndShow "" [] {} (facing 24)
    let done := showSwitch {} .nmea0183 before.state
    before.value = .ok true ∧ done.value = .ok true ∧ ∃ s', done.state.display = .screen s' ∧
      s'.areas (drawn (before.effects ++ done.effects)) = Screen.plan 24 80 h.rows ∧
      Fits 24 (s'.areas (drawn (before.effects ++ done.effects))) := by
  intro h before done
  have known : (facing 24).monitor.desk.registry.resolve Receiver.nmea0183.name = some h := rfl
  have ready : before.value = .ok true := rfl
  have shown : done.value = .ok true := rfl
  obtain ⟨-, s', room, screen, which, areas, fits, -⟩ := admitted_layout_fits_iff
    (s := { rows := 24 }) (by decide) rfl ready known (by decide +kernel)
  have own : room = h.rows := which.resolve_right fun stopped => stopped.2 shown
  rw [own] at areas fits
  exact ⟨ready, shown, s', screen, areas, fits.mpr (by decide)⟩

/-- On a screen of 22 rows, from 0 to 21, the same handler is let on; its window ends in row 22 and
the packets are put in row 23. -/
theorem panel_admitted_on_small_screen :
    let h := Handler.panelFor .nmea0183 false
    let m := (facing 22).monitor
    let before := startAndShow "" [] {} (facing 22)
    let done := showSwitch {} .nmea0183 before.state
    m.desk.registry.resolve Receiver.nmea0183.name = some h ∧
      .complain s!"{h.name} requires {h.columns}x{h.rows + 1} screen" ∉
        (Desk.switchTo .nmea0183 m.session m.desk).effects ∧
      done.value = .ok true ∧ ∃ s', done.state.display = .screen s' ∧
        band 80 21 2 ∈ s'.areas (drawn (before.effects ++ done.effects)) ∧
        band 80 1 23 ∈ s'.areas (drawn (before.effects ++ done.effects)) ∧
        ¬ Fits 22 (s'.areas (drawn (before.effects ++ done.effects))) := by
  intro h m before done
  have known : m.desk.registry.resolve Receiver.nmea0183.name = some h := rfl
  have admitted : .complain s!"{h.name} requires {h.columns}x{h.rows + 1} screen" ∉
      (Desk.switchTo .nmea0183 m.session m.desk).effects := by decide +kernel
  have shown : done.value = .ok true := rfl
  have ready : before.value = .ok true := rfl
  have started := (startAndShow_laidOut (s := { rows := 22 }) ready).2
  obtain ⟨room, which, s', screen, laid⟩ := showSwitch_laidOut {} started known admitted
  have own : room = h.rows := which.resolve_right fun stopped => stopped.2 shown
  have areas : s'.areas (drawn (before.effects ++ done.effects)) = Screen.plan 22 80 h.rows :=
    own ▸ laid.areas_eq
  refine ⟨known, admitted, shown, s', screen, ?_, ?_, ?_⟩
  · rw [areas]
    decide
  · rw [areas]
    decide
  · rw [areas, Screen.plan_fits_iff (by decide)]
    decide

end Run
end GnssMonitor
