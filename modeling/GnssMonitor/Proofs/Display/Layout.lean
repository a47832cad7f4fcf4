import GnssMonitor.Proofs.Display

/-! Where the windows of the screen lie: the status line and the command line on top, the handler's
window below them and the packets under it. The lines are made once; after that only a new layout
makes windows, and all else that is done on the screen leaves them where they are. -/

namespace GnssMonitor

open Act (Obeys)

/-- The size of a window, and where its first cell is. -/
structure Area where
  rows : Int
  columns : Int
  top : Int
  left : Int
  deriving DecidableEq, Repr

namespace Area

variable {width height rows top : Int}

def Covers (a : Area) (row col : Int) : Prop :=
  (a.top ≤ row ∧ row < a.top + a.rows) ∧ a.left ≤ col ∧ col < a.left + a.columns

/-- Wholly on a screen of so many rows. -/
def Within (height : Int) (a : Area) : Prop :=
  ∀ row col, a.Covers row col → 0 ≤ row ∧ row < height

def Apart (a b : Area) : Prop := ∀ row col, a.Covers row col → ¬ b.Covers row col

/-- Rows from one side of the screen to the other. -/
def band (width rows top : Int) : Area := ⟨rows, width, top, 0⟩

theorem band_within (first : 0 ≤ top) (last : top + rows ≤ height) :
    (band width rows top).Within height := by
  rintro row col ⟨⟨_, _⟩, _⟩
  simp only [band] at *
  omega

/-- A band that has cells at all shows both its first and its last row. -/
theorem bounds_of_band_within (wide : 0 < width) (high : 0 < rows)
    (within : (band width rows top).Within height) : 0 ≤ top ∧ top + rows ≤ height := by
  have first := within top 0 ⟨by simp only [band]; omega, by simp only [band]; omega⟩
  have last := within (top + rows - 1) 0 ⟨by simp only [band]; omega, by simp only [band]; omega⟩
  omega

theorem band_apart {rows' top' : Int} (above : top + rows ≤ top') :
    (band width rows top).Apart (band width rows' top') := by
  rintro row col ⟨⟨_, _⟩, _⟩ ⟨⟨_, _⟩, _⟩
  simp only [band] at *
  omega

end Area

open Area (band)

/-- All windows are wholly on a screen of so many rows, and no two of them share a cell. -/
structure Fits (height : Int) (areas : List Area) : Prop where
  within : ∀ a ∈ areas, a.Within height
  apart : areas.Pairwise Area.Apart

/-- The area that an effect gives to a window. -/
def ScreenEffect.area? (n : Nat) : ScreenEffect → Option Area
  | .newwin k rows columns top left => if k = n then some ⟨rows, columns, top, left⟩ else none
  | _ => none

theorem ScreenEffect.area?_of_other {e : ScreenEffect} (other : e.makesWindow = false) (n : Nat) :
    e.area? n = none := by
  cases e with
  | newwin => contradiction
  | _ => rfl

namespace Screen

/-- The area that a window was made with. -/
def areaOf (log : List ScreenEffect) (n : Nat) : Option Area := log.findSome? (·.area? n)

/-- The areas of the windows that there are, from the top of the screen to its bottom. -/
def areas (log : List ScreenEffect) (s : Screen) : List Area :=
  [s.statusLine, s.commandLine, s.device, s.packets].filterMap (·.bind (areaOf log))

/-- The layout of a screen with so many rows for the handler. -/
def plan (height width room : Int) : List Area :=
  [band width 1 0, band width 1 1] ++ (if 0 < room then [band width room headRows] else []) ++
    [band width (max (height - headRows - room) 1) (headRows + room)]

variable {height width room : Int}

theorem plan_apart (some : 0 ≤ room) : (plan height width room).Pairwise Area.Apart := by
  have lines : (band width 1 0).Apart (band width 1 1) := Area.band_apart (by omega)
  have below {top rows : Int} (lower : headRows ≤ top) :
      (band width 1 0).Apart (band width rows top) ∧ (band width 1 1).Apart (band width rows top) :=
    ⟨Area.band_apart (by simp only [headRows] at lower; omega),
      Area.band_apart (by simp only [headRows] at lower; omega)⟩
  obtain ⟨status, command⟩ := @below (headRows + room) (max (height - headRows - room) 1)
    (by omega)
  unfold plan
  split
  · obtain ⟨status', command'⟩ := @below headRows room (by omega)
    have handler : (band width room headRows).Apart
        (band width (max (height - headRows - room) 1) (headRows + room)) :=
      Area.band_apart (by omega)
    simp [*]
  · simp [*]

/-- The head takes two rows and the packets at least one. -/
theorem plan_fits_iff (wide : 0 < width) :
    Fits height (plan height width room) ↔ 0 ≤ room ∧ room + 3 ≤ height := by
  constructor
  · intro fits
    have command := Area.bounds_of_band_within wide (by omega)
      (fits.within (band width 1 1) (by simp [plan]))
    have packets := Area.bounds_of_band_within wide (by omega)
      (fits.within (band width (max (height - headRows - room) 1) (headRows + room))
        (by simp [plan]))
    have apart : (band width 1 1).Apart
        (band width (max (height - headRows - room) 1) (headRows + room)) := by
      have pairs := fits.apart
      simp only [plan, List.append_assoc, List.cons_append, List.pairwise_cons] at pairs
      exact pairs.2.1 _ (by simp)
    simp only [headRows] at packets
    by_cases taken : room < 0
    · -- less than no rows for the handler puts the packets over the command line
      refine absurd ?_ (apart 1 0 ⟨by simp only [band]; omega, by simp only [band]; omega⟩)
      exact ⟨by simp only [band, headRows]; omega, by simp only [band]; omega⟩
    · omega
  · rintro ⟨some, enough⟩
    refine ⟨?_, plan_apart some⟩
    intro a there
    simp only [plan, List.mem_append, List.mem_cons, List.not_mem_nil, or_false] at there
    obtain ((rfl | rfl) | handler) | rfl := there
    · exact Area.band_within (by omega) (by omega)
    · exact Area.band_within (by omega) (by omega)
    · split at handler
      · obtain rfl := List.mem_singleton.mp handler
        exact Area.band_within (by omega) (by simp only [headRows]; omega)
      · contradiction
    · exact Area.band_within (by omega) (by simp only [headRows]; omega)

variable {α : Type} {log es : List ScreenEffect} {s s' : Screen}

theorem areaOf_append (log es : List ScreenEffect) (n : Nat) :
    areaOf (log ++ es) n = (areaOf log n).or (areaOf es n) := List.findSome?_append

theorem bind_areaOf_append {w : Option Nat} {a : Area} (es : List ScreenEffect)
    (made : w.bind (areaOf log) = some a) : w.bind (areaOf (log ++ es)) = some a := by
  obtain ⟨n, rfl, there⟩ := Option.bind_eq_some_iff.mp made
  rw [Option.bind_some, areaOf_append, there, Option.some_or]

/-- The status line and the command line have been made, with all windows numbered in turn. -/
structure Headed (width : Int) (log : List ScreenEffect) (s : Screen) : Prop where
  columns : s.columns = width
  unmade : ∀ n, s.made < n → areaOf log n = none
  statusLine : s.statusLine.bind (areaOf log) = some (band width 1 0)
  commandLine : s.commandLine.bind (areaOf log) = some (band width 1 1)

/-- The windows have been made with so many rows for the handler. -/
structure LaidOut (height width room : Int) (log : List ScreenEffect) (s : Screen) : Prop
    extends Headed width log s where
  rows : s.rows = height
  device : 0 < room → s.device.bind (areaOf log) = some (band width room headRows)
  noDevice : ¬ 0 < room → s.device = none
  packets : s.packets.bind (areaOf log) =
    some (band width (max (height - headRows - room) 1) (headRows + room))

theorem LaidOut.areas_eq (laid : LaidOut height width room log s) :
    s.areas log = plan height width room := by
  unfold areas plan
  by_cases some : 0 < room
  · simp [laid.statusLine, laid.commandLine, laid.device some, laid.packets, some]
  · simp [laid.statusLine, laid.commandLine, laid.noDevice some, laid.packets, some]

theorem LaidOut.stays (laid : LaidOut height width room log s) (stays : Stays s es s') :
    LaidOut height width room (log ++ es) s' := by
  obtain ⟨⟨_, rfl⟩, plain⟩ := stays
  have same : areaOf (log ++ es) = areaOf log := by
    funext n
    have none : areaOf es n = none :=
      List.findSome?_eq_none_iff.mpr fun e there => ScreenEffect.area?_of_other (plain e there) n
    rw [areaOf_append, none, Option.or_none]
  obtain ⟨⟨columns, unmade, statusLine, commandLine⟩, rows, device, noDevice, packets⟩ := laid
  exact ⟨⟨columns, by rwa [same], by rwa [same], by rwa [same]⟩, rows, by rwa [same], noDevice,
    by rwa [same]⟩

/-- The windows are left where they are. -/
def Preserves (height width room : Int) (s : Screen) (es : List ScreenEffect)
    (s' : Screen) : Prop :=
  ∀ log, LaidOut height width room log s → LaidOut height width room (log ++ es) s'

instance : Act.Composes (Preserves height width room) where
  nothing _ log laid := (List.append_nil log).symm ▸ laid
  next first second log laid := List.append_assoc log _ _ ▸ second _ (first log laid)

theorem Stays.preserves (stays : Stays s es s') : Preserves height width room s es s' :=
  fun _ laid => laid.stays stays

theorem stop_preserves (s : Screen) : Obeys (Preserves height width room) s stop := by
  have emitted {e : ScreenEffect} (other : e.makesWindow = false) (s : Screen) :
      Obeys (Preserves height width room) s (Act.emit e) := (emit_stays other s).preserves
  have called (c : WindowCall) (s : Screen) :
      Obeys (Preserves height width room) s (callWhole c) := (callWhole_stays c s).preserves
  refine .get_bind (Act.obeys_ite (fun _ => ?_) fun _ => Act.obeys_pure ())
  refine (emitted rfl s).bind fun _ _ => (called _ _).bind fun _ _ => ?_
  refine (emitted rfl _).bind fun _ _ => (emitted rfl _).bind fun _ _ => ?_
  rintro log ⟨⟨columns, unmade, statusLine, commandLine⟩, rows, device, noDevice, packets⟩
  rw [Act.modify_apply, List.append_nil]
  exact ⟨⟨columns, unmade, statusLine, commandLine⟩, rows, device, noDevice, packets⟩

/-- A new window is the one numbered next, as wide as the screen. -/
theorem newWindow_apply (rows top : Int) (s : Screen) : newWindow rows top s =
    ⟨.ok (s.made + 1), { s with made := s.made + 1 },
      [.newwin (s.made + 1) rows s.columns top 0]⟩ := rfl

theorem Headed.made (headed : Headed width log s) (rows top : Int) :
    Headed width (log ++ [.newwin (s.made + 1) rows s.columns top 0])
        { s with made := s.made + 1 } ∧
      areaOf (log ++ [.newwin (s.made + 1) rows s.columns top 0]) (s.made + 1) =
        some (band width rows top) := by
  obtain ⟨columns, unmade, statusLine, commandLine⟩ := headed
  refine ⟨⟨columns, ?_, bind_areaOf_append _ statusLine, bind_areaOf_append _ commandLine⟩, ?_⟩
  · intro n beyond
    have other : ¬ s.made + 1 = n := Nat.ne_of_lt beyond
    rw [areaOf_append, unmade n (Nat.lt_of_succ_lt beyond), Option.none_or]
    simp [areaOf, ScreenEffect.area?, other]
  · rw [areaOf_append, unmade _ (Nat.lt_succ_self _), Option.none_or]
    simp [areaOf, ScreenEffect.area?, columns, band]

/-- Makes the window for packets, in what is left under the handler's. -/
def layOutPackets (room : Int) : Do Unit := do
  let left := max ((← get).rows - headRows - room) 1
  let n ← newWindow left (headRows + room)
  modify fun s => { s with packets := some n }
  callOn (some n) (.scrollok true)
  callOn (some n) (.setscrreg 0 (left - 1))
  Act.emit .doupdate

theorem layOut_eq (room : Int) : layOut room =
    (if 0 < room then do
      let n ← newWindow room headRows
      modify fun s => { s with device := some n }
      layOutPackets room
    else do
      modify fun s => { s with device := none }
      layOutPackets room) := rfl

theorem layOutPackets_laidOut (headed : Headed width log s) (rows : s.rows = height)
    (device : 0 < room → s.device.bind (areaOf log) = some (band width room headRows))
    (noDevice : ¬ 0 < room → s.device = none) :
    LaidOut height width room (log ++ (layOutPackets room s).effects)
      (layOutPackets room s).state := by
  let left := max (s.rows - headRows - room) 1
  let made : ScreenEffect := .newwin (s.made + 1) left s.columns (headRows + room) 0
  let shown : Screen := { s with made := s.made + 1, packets := some (s.made + 1) }
  let rest : Do Unit := do
    callOn (some (s.made + 1)) (.scrollok true)
    callOn (some (s.made + 1)) (.setscrreg 0 (left - 1))
    Act.emit .doupdate
  obtain ⟨headed', packets⟩ := headed.made left (headRows + room)
  have laid : LaidOut height width room (log ++ [made]) shown := by
    refine ⟨⟨headed'.columns, headed'.unmade, headed'.statusLine, headed'.commandLine⟩, rows, ?_,
      noDevice, rows ▸ packets⟩
    exact fun some => bind_areaOf_append _ (device some)
  have stays : Obeys Stays shown rest := by
    refine (callOn_stays _ _ _).bind fun _ _ => (callOn_stays _ _ _).bind fun _ _ => ?_
    exact emit_stays rfl _
  unfold layOutPackets
  rw [Act.get_bind, Act.bind_of (newWindow_apply left (headRows + room) s), Act.modify_bind,
    ← List.append_assoc]
  exact laid.stays stays

/-- A new layout needs no more than the head, whatever was below it. -/
theorem layOut_laidOut (headed : Headed width log s) (rows : s.rows = height) (room : Int) :
    LaidOut height width room (log ++ (layOut room s).effects) (layOut room s).state := by
  rw [layOut_eq]
  by_cases some : 0 < room
  · obtain ⟨headed', device⟩ := headed.made room headRows
    rw [if_pos some, Act.bind_of (newWindow_apply room headRows s), Act.modify_bind,
      ← List.append_assoc]
    refine layOutPackets_laidOut ⟨headed'.columns, headed'.unmade, headed'.statusLine,
      headed'.commandLine⟩ rows (fun _ => device) fun none => absurd some none
  · rw [if_neg some, Act.modify_bind]
    exact layOutPackets_laidOut ⟨headed.columns, headed.unmade, headed.statusLine,
      headed.commandLine⟩ rows (fun there => absurd there some) fun _ => rfl

theorem makeWindows_laidOut {prompt : String} (log : List ScreenEffect)
    (blank : ∀ n, areaOf log n = none)
    (made : (makeWindows prompt s).value = .ok true) :
    LaidOut s.rows s.columns 0 (log ++ (makeWindows prompt s).effects)
      (makeWindows prompt s).state := by
  let lines : List ScreenEffect :=
    [.newwin (s.made + 1) 1 s.columns 0 0, .newwin (s.made + 2) 1 s.columns 1 0]
  let headed : Screen := { s with
    made := s.made + 2, statusLine := some (s.made + 1), commandLine := some (s.made + 2) }
  have head : Headed s.columns (log ++ lines) headed := by
    refine ⟨rfl, fun n beyond => ?_, ?_, ?_⟩
    · have other : ¬ s.made + 1 = n ∧ ¬ s.made + 2 = n := by simp only [headed] at beyond; omega
      rw [areaOf_append, blank, Option.none_or]
      simp [areaOf, lines, ScreenEffect.area?, other]
    · show areaOf (log ++ lines) (s.made + 1) = _
      rw [areaOf_append, blank, Option.none_or]
      simp [areaOf, lines, ScreenEffect.area?, band]
    · show areaOf (log ++ lines) (s.made + 2) = _
      rw [areaOf_append, blank, Option.none_or]
      simp [areaOf, lines, ScreenEffect.area?, band]
  have stays : Obeys Stays (layOut 0 headed).state
      (showStatus prompt >>= fun _ => pure true : Do Bool) :=
    (showStatus_stays prompt _).bind fun _ _ => Act.obeys_pure true
  unfold makeWindows at made ⊢
  rw [Act.bind_of (newWindow_apply 1 0 s), Act.modify_bind, Act.bind_of (newWindow_apply 1 1 _),
    Act.modify_bind] at made ⊢
  obtain ⟨_, laid, _⟩ := Act.bind_value_ok.mp made
  rw [Act.bind_ok laid]
  have whole := (layOut_laidOut head rfl 0).stays stays
  simpa [lines] using whole

/-- A screen that has been started shows no handler yet. -/
theorem start_laidOut {prompt : String} (started : (start prompt s).value = .ok true) :
    LaidOut s.rows s.columns 0 (start prompt s).effects (start prompt s).state := by
  have available : s.available = true := by
    unfold start at started
    rw [Act.get_bind] at started
    cases there : s.available with
    | true => rfl
    | false => simp [there] at started
  rw [start_available available, setUp, Act.emit_bind, Act.emit_bind] at started ⊢
  obtain ⟨_, flushed, started⟩ := Act.bind_value_ok.mp started
  rw [Act.bind_ok flushed]
  rw [callWhole_apply rfl] at started ⊢
  obtain ⟨_, keyed, started⟩ := Act.bind_value_ok.mp started
  rw [Act.bind_ok keyed]
  rw [callWhole_apply rfl] at started ⊢
  have laid := makeWindows_laidOut [.cbreak true, .echo false,
    .window .whole (.intrflush false), .window .whole (.keypad true)] (fun _ => rfl) started
  simpa using laid

end Screen
end GnssMonitor
