import GnssMonitor.Display
import GnssMonitor.Proofs.Act

/-! What is shown leaves the display as it stands: in use or not, with the same windows. Only a
layout and the start make windows, and only the start and the end decide whether the display is in
use. -/

namespace GnssMonitor

open Act (Obeys Survives)

def ScreenEffect.makesWindow : ScreenEffect → Bool
  | .newwin .. => true
  | _ => false

namespace Screen

/-- Only the place behind the prompt changes, and no window is made. -/
def Stays (s : Screen) (es : List ScreenEffect) (s' : Screen) : Prop :=
  (∃ promptLength, s' = { s with promptLength }) ∧ ∀ e ∈ es, e.makesWindow = false

instance : Act.Composes Stays where
  nothing s := ⟨⟨s.promptLength, rfl⟩, by simp⟩
  next := by
    rintro s _ _ es es' ⟨⟨_, rfl⟩, first⟩ ⟨⟨_, rfl⟩, second⟩
    exact ⟨⟨_, rfl⟩, fun e there => (List.mem_append.mp there).elim (first e) (second e)⟩

variable {α : Type} {s : Screen}

section Stays

theorem emit_stays {e : ScreenEffect} (other : e.makesWindow = false) (s : Screen) :
    Obeys Stays s (Act.emit e) :=
  ⟨⟨_, rfl⟩, by simpa using other⟩

theorem call_stays (w : WindowId) (c : WindowCall) (s : Screen) : Obeys Stays s (call w c) := by
  refine (emit_stays rfl s).bind fun _ _ => .get_bind ?_
  exact Act.obeys_ite (fun _ => Act.obeys_throw _) fun _ => Act.obeys_pure _

theorem callOn_stays (w : Option Nat) (c : WindowCall) (s : Screen) :
    Obeys Stays s (callOn w c) := by
  cases w with
  | none => exact Act.obeys_throw _
  | some n => exact call_stays _ c s

theorem callWhole_stays (c : WindowCall) (s : Screen) : Obeys Stays s (callWhole c) :=
  .get_bind (Act.obeys_ite (fun _ => call_stays _ c s) fun _ => Act.obeys_throw _)

theorem attempt_stays {x : Do Unit} (stays : Obeys Stays s x) : Obeys Stays s (attempt x) := by
  refine stays.caught fun e _ => ?_
  cases e <;> exact Act.Composes.nothing _

theorem showPrompt_stays (s : Screen) : Obeys Stays s showPrompt := by
  refine .get_bind ((callOn_stays _ _ s).bind fun _ _ => (callOn_stays _ _ _).bind fun _ _ => ?_)
  have moved (s : Screen) : Obeys Stays s
      (modify fun s => { s with promptLength := promptText.length }) := ⟨⟨_, rfl⟩, by simp⟩
  exact (moved _).bind fun _ _ => callOn_stays _ _ _

theorem showStatus_stays (text : String) (s : Screen) : Obeys Stays s (showStatus text) := by
  refine .get_bind ((callOn_stays _ _ s).bind fun _ _ => (callOn_stays _ _ _).bind fun _ _ => ?_)
  refine (callOn_stays _ _ _).bind fun _ _ => (showPrompt_stays _).bind fun _ _ => ?_
  exact emit_stays rfl _

theorem clear_stays (s : Screen) : Obeys Stays s clear :=
  (callWhole_stays _ s).bind fun _ _ => (callWhole_stays _ _).bind fun _ _ => callWhole_stays _ _

theorem append_stays (text : String) (s : Screen) : Obeys Stays s (append text) := by
  refine .get_bind ((attempt_stays (callOn_stays _ _ s)).bind fun _ _ => ?_)
  refine (callOn_stays _ _ _).bind fun _ _ => Act.obeys_ite (fun _ => ?_) fun _ => ?_
  · exact (callOn_stays _ _ _).bind fun _ _ => emit_stays rfl _
  · exact emit_stays rfl _

theorem complain_stays (text : String) (s : Screen) : Obeys Stays s (complain text) := by
  refine .get_bind ((callOn_stays _ _ s).bind fun _ _ => (callOn_stays _ _ _).bind fun _ _ => ?_)
  refine (callOn_stays _ _ _).bind fun _ _ => (callOn_stays _ _ _).bind fun _ _ => ?_
  exact emit_stays rfl _

theorem read_stays (key : Int) (rest : Bytes) (s : Screen) : Obeys Stays s (read key rest) := by
  have answered : Obeys Stays s (do
      showPrompt
      callOn (← get).commandLine (.addch key)
      Act.emit (.echo true)
      Act.emit (.echo false)
      showPrompt
      Act.emit .doupdate
      return some (String.ofList (Char.ofNat key.toNat :: Text.decodeAsciiLossy rest))) := by
    refine (showPrompt_stays s).bind fun _ _ => .get_bind ?_
    refine (callOn_stays _ _ _).bind fun _ _ => (emit_stays rfl _).bind fun _ _ => ?_
    refine (emit_stays rfl _).bind fun _ _ => (showPrompt_stays _).bind fun _ _ => ?_
    exact (emit_stays rfl _).bind fun _ _ => Act.obeys_pure _
  have redrawn : Obeys Stays s (do
      callWhole (.clearok true)
      callWhole .refresh
      return none : Do (Option String)) :=
    (callWhole_stays _ s).bind fun _ _ => (callWhole_stays _ _).bind fun _ _ => Act.obeys_pure _
  refine .get_bind (Act.obeys_ite (fun _ => Act.obeys_throw _) fun _ => ?_)
  refine Act.obeys_ite (fun _ => redrawn) fun _ => ?_
  exact Act.obeys_ite (fun _ => Act.obeys_pure _) fun _ => answered

theorem callOnDevice_stays (operation : String) (c : WindowCall) (s : Screen) :
    Obeys Stays s (callOnDevice operation c) := by
  refine .get_bind ?_
  cases s.device with
  | none => exact Act.obeys_throw _
  | some n => exact call_stays _ c s

end Stays

/-- The screen is in use or not, and its windows refuse these calls. -/
def Stands (used : Bool) (refused : List String) (s : Screen) : Prop :=
  s.started = used ∧ s.refused = refused

/-- What is done on the screen neither takes it nor gives it back. -/
def Draws (x : Do α) : Prop := ∀ used refused, Survives (Stands used refused) (fun _ => True) x

section Draws

variable {x : Do α}

theorem draws_pure (a : α) : Draws (pure a : Do α) := fun _ _ => Act.survives_pure a

theorem draws_emit (e : ScreenEffect) : Draws (Act.emit e) := fun _ _ => Act.survives_emit e

theorem draws_of_stays (stays : ∀ s, Obeys Stays s x) : Draws x := by
  intro used refused s standing
  obtain ⟨⟨_, left⟩, _⟩ := stays s
  rw [left]
  exact ⟨standing, fun _ _ => trivial⟩

theorem draws_modify {f : Screen → Screen}
    (same : ∀ s, (f s).started = s.started ∧ (f s).refused = s.refused) :
    Draws (modify f : Do PUnit) := by
  intro used refused
  refine Act.survives_modify fun s stands => ?_
  exact ⟨(same s).1.trans stands.1, (same s).2.trans stands.2⟩

theorem Draws.bind {β : Type} {f : α → Do β} (hx : Draws x) (hf : ∀ a, Draws (f a)) :
    Draws (x >>= f) := fun used refused => (hx used refused).bind fun a => hf a used refused

theorem draws_get_bind {f : Screen → Do α} (hf : ∀ s, Draws (f s)) : Draws (get >>= f) :=
  fun used refused => Act.survives_get_bind fun s _ => hf s used refused

theorem draws_ite {c : Prop} [Decidable c] {y : Do α} (hx : Draws x) (hy : Draws y) :
    Draws (if c then x else y) := by
  split
  · exact hx
  · exact hy

end Draws

theorem newWindow_draws (rows top : Int) : Draws (newWindow rows top) := by
  refine draws_get_bind fun _ => Draws.bind (draws_modify fun _ => ⟨rfl, rfl⟩) fun _ => ?_
  exact draws_get_bind fun _ => (draws_emit _).bind fun _ => draws_pure _

theorem layOut_draws (rows : Int) : Draws (layOut rows) := by
  have left : Draws (do
      let left := max ((← get).rows - headRows - rows) 1
      let n ← newWindow left (headRows + rows)
      modify fun s => { s with packets := some n }
      callOn (some n) (.scrollok true)
      callOn (some n) (.setscrreg 0 (left - 1))
      Act.emit .doupdate) := by
    refine draws_get_bind fun _ => (newWindow_draws _ _).bind fun _ => ?_
    refine Draws.bind (draws_modify fun _ => ⟨rfl, rfl⟩) fun _ => ?_
    refine Draws.bind (draws_of_stays (callOn_stays _ _)) fun _ => ?_
    exact Draws.bind (draws_of_stays (callOn_stays _ _)) fun _ => draws_emit _
  refine draws_ite ((newWindow_draws _ _).bind fun _ => ?_) ?_
  · exact Draws.bind (draws_modify fun _ => ⟨rfl, rfl⟩) fun _ => left
  · exact Draws.bind (draws_modify fun _ => ⟨rfl, rfl⟩) fun _ => left

/-- Makes the two lines on top and lays out the rest without a handler. -/
def makeWindows (prompt : String) : Do Bool := do
  let status ← newWindow 1 0
  modify fun s => { s with statusLine := some status }
  let command ← newWindow 1 1
  modify fun s => { s with commandLine := some command }
  layOut 0
  showStatus prompt
  return true

theorem makeWindows_draws (prompt : String) : Draws (makeWindows prompt) := by
  refine (newWindow_draws _ _).bind fun _ => ?_
  refine Draws.bind (draws_modify fun _ => ⟨rfl, rfl⟩) fun _ => ?_
  refine (newWindow_draws _ _).bind fun _ => ?_
  refine Draws.bind (draws_modify fun _ => ⟨rfl, rfl⟩) fun _ => ?_
  refine (layOut_draws 0).bind fun _ => ?_
  exact Draws.bind (draws_of_stays (showStatus_stays prompt)) fun _ => draws_pure true

/-- What starting does on a terminal that is there. -/
def setUp (prompt : String) : Do Bool := do
  Act.emit (.cbreak true)
  Act.emit (.echo false)
  callWhole (.intrflush false)
  callWhole (.keypad true)
  makeWindows prompt

theorem setUp_draws (prompt : String) : Draws (setUp prompt) := by
  refine (draws_emit _).bind fun _ => (draws_emit _).bind fun _ => ?_
  refine Draws.bind (draws_of_stays (callWhole_stays _)) fun _ => ?_
  exact Draws.bind (draws_of_stays (callWhole_stays _)) fun _ => makeWindows_draws prompt

theorem start_available {s : Screen} (available : s.available = true) (prompt : String) :
    start prompt s = setUp prompt { s with started := true } := by
  unfold start
  rw [Act.get_bind, if_neg (by simp [available])]
  rfl

theorem start_stands (prompt : String) (s : Screen) :
    Stands (s.started || s.available) s.refused (start prompt s).state := by
  by_cases available : s.available = true
  · rw [start_available available, show (s.started || s.available) = true by simp [available]]
    exact (setUp_draws prompt true s.refused { s with started := true } ⟨rfl, rfl⟩).1
  · unfold start
    rw [Act.get_bind]
    simp [available, Stands]

theorem callWhole_apply {s : Screen} (started : s.started = true) (c : WindowCall) :
    callWhole c s = ⟨if c.name ∈ s.refused then .error .windowRefused else .ok (), s,
      [.window .whole c]⟩ := by
  unfold callWhole call
  rw [Act.get_bind, if_pos started, Act.emit_bind, Act.get_bind]
  split <;> rfl

theorem stop_of_unrefused {s : Screen} (free : s.started = true → "keypad" ∉ s.refused) :
    (stop s).value = .ok () ∧ (stop s).state.started = false := by
  unfold stop
  rw [Act.get_bind]
  by_cases started : s.started = true
  · have called := callWhole_apply started (.keypad false)
    rw [if_neg (show WindowCall.name (.keypad false) ∉ s.refused from free started)] at called
    rw [if_pos started, Act.emit_bind, Act.bind_ok (by rw [called]), called]
    exact ⟨rfl, rfl⟩
  · simp [started]

theorem stop_of_refused {s : Screen} (started : s.started = true)
    (refused : "keypad" ∈ s.refused) : (stop s).value = .error .windowRefused := by
  have called := callWhole_apply started (.keypad false)
  rw [if_pos (show WindowCall.name (.keypad false) ∈ s.refused from refused)] at called
  unfold stop
  rw [Act.get_bind, if_pos started, Act.emit_bind, Act.bind_error (by rw [called])]

end Screen

namespace Display

/-- The screen, if there is one, is in use or not, and its windows refuse these calls. -/
def standing : Display → Option (Bool × List String)
  | console _ => none
  | screen s => some (s.started, s.refused)

variable {d : Display}

theorem either_standing {α : Type} {y : Screen.Do α} (drawn : Screen.Draws y) (x : Console.Do α)
    (d : Display) : (either x y d).state.standing = d.standing := by
  cases d with
  | console c => rfl
  | screen s =>
    obtain ⟨used, refused⟩ := (drawn s.started s.refused s ⟨rfl, rfl⟩).1
    simp [standing, either, used, refused]

/-- A screen is left by what is done on it as the relation has it; a console stays one. -/
def Shows (T : Screen → List ScreenEffect → Screen → Prop) (d : Display)
    (es : List DisplayEffect) (d' : Display) : Prop :=
  match d with
  | console _ => ∃ c, d' = console c
  | screen s => ∃ s' drawn, d' = screen s' ∧ es = drawn.map .screen ∧ T s drawn s'

theorem either_shows {α : Type} {T : Screen → List ScreenEffect → Screen → Prop}
    {y : Screen.Do α} (obeys : ∀ s, Obeys T s y) (x : Console.Do α) (d : Display) :
    Obeys (Shows T) d (either x y) := by
  cases d with
  | console c => exact ⟨_, rfl⟩
  | screen s => exact ⟨_, _, rfl, rfl, obeys s⟩

theorem drawOn_stays (op : WindowOp) (s : Screen) : Obeys Screen.Stays s (drawOn op) := by
  cases op with
  | clear | refresh => exact Screen.callOnDevice_stays _ _ s
  | put => exact Screen.attempt_stays (Screen.callOnDevice_stays _ _ s)

theorem read_shows (prompt : String) (typed : Typed) (d : Display) :
    Obeys (Shows Screen.Stays) d (read prompt typed) := by
  refine either_shows (fun s => (Screen.read_stays _ _ s).bind fun line _ => ?_) _ d
  cases line <;> exact Act.obeys_pure _

/-- Apart from a layout and the end of monitoring, the windows are left as they are. -/
theorem perform_shows {e : Effect} (same : ∀ rows, e ≠ .layout rows) (other : e ≠ .stop)
    (typed : Typed) (d : Display) : Obeys (Shows Screen.Stays) d (perform typed e) := by
  have idle (s : Screen) : Obeys Screen.Stays s (pure () : Screen.Do Unit) := Act.obeys_pure ()
  cases e with
  | append text => exact either_shows (Screen.append_stays text) _ d
  | complain text => exact either_shows (Screen.complain_stays text) _ d
  | clear => exact either_shows Screen.clear_stays _ d
  | layout rows => exact absurd rfl (same rows)
  | status text => exact either_shows (Screen.showStatus_stays text) _ d
  | draw op => exact either_shows (drawOn_stays op) _ d
  | ask prompt =>
    have asked : perform typed (.ask prompt) = (read prompt typed >>= fun _ => pure ()) := rfl
    unfold Obeys
    rw [asked, Act.bind_pure_const]
    exact read_shows prompt typed d
  | resume => exact either_shows idle _ d
  | stop => contradiction
  | line | hook | pause =>
    cases d with
    | console c => exact ⟨c, rfl⟩
    | screen s => exact ⟨s, [], rfl, rfl, idle s⟩

theorem Shows.standing {d' : Display} {es : List DisplayEffect}
    (shows : Shows Screen.Stays d es d') : d'.standing = d.standing := by
  cases d with
  | console c =>
    obtain ⟨_, rfl⟩ := shows
    rfl
  | screen s =>
    obtain ⟨_, _, rfl, _, ⟨_, rfl⟩, _⟩ := shows
    rfl

/-- Only the end of monitoring gives the display back. -/
theorem perform_standing {e : Effect} (other : e ≠ .stop) (typed : Typed) (d : Display) :
    (perform typed e d).state.standing = d.standing := by
  by_cases laid : ∃ rows, e = .layout rows
  · obtain ⟨rows, rfl⟩ := laid
    exact either_standing (Screen.layOut_draws rows) _ d
  · exact (perform_shows (fun rows layout => laid ⟨rows, layout⟩) other typed d).standing

/-- The display in use, if it can be used at all. -/
def inUse : Display → Display
  | console c => console c
  | screen s => screen { s with started := s.started || s.available }

theorem start_standing (prompt : String) (d : Display) :
    (start prompt d).state.standing = d.inUse.standing := by
  cases d with
  | console c => rfl
  | screen s =>
    obtain ⟨used, refused⟩ := Screen.start_stands prompt s
    simp [standing, inUse, start, either, used, refused]

/-- Nothing refuses to give the display back. -/
def Yields (d : Display) : Prop := ∀ place ∈ d.standing, place.1 = true → "keypad" ∉ place.2

/-- The display has been given back, or has never been in use. -/
def AtRest : Display → Prop
  | console c => ∀ m ∈ c.cooked, c.terminal = some m
  | screen s => s.started = false

theorem stop_of_yields (yields : d.Yields) : (stop d).value = .ok () ∧ (stop d).state.AtRest := by
  cases d with
  | console c =>
    obtain ⟨terminal, pause, cooked, rare⟩ := c
    cases cooked with
    | none => exact ⟨rfl, nofun⟩
    | some m => exact ⟨rfl, by rintro _ ⟨⟩; rfl⟩
  | screen s => exact Screen.stop_of_unrefused (by simpa [Yields, standing] using yields)

theorem stop_of_not_yields (stuck : ¬ d.Yields) : (stop d).value = .error .windowRefused := by
  cases d with
  | console c => exact absurd (by simp [Yields, standing]) stuck
  | screen s =>
    obtain ⟨started, refused⟩ : s.started = true ∧ "keypad" ∈ s.refused := by
      simpa [Yields, standing] using stuck
    exact Screen.stop_of_refused started refused

end Display
end GnssMonitor
