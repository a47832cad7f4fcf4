import GnssMonitor.Monitor.EventLoop
import GnssMonitor.Proofs.Act
import GnssMonitor.Proofs.Binary64.Nearest
import GnssMonitor.Proofs.TimeOffset.Latching
import GnssMonitor.TimeOffset.Pulse

/-! Pulses beside the fixes. The tracker and the watch take turns in any order, and a pulse is made
from the reference as it is then, yet the second it marks is behind none of the fixes that were
latched before. Histories are told with the latest occasion first. -/

namespace GnssMonitor

/-- The tracker hears of something, or the line changes. -/
inductive Occasion
  | heard (e : Tracker.Event)
  | edge (clock : Binary64) (carrier : Bool)

/-- A tracker with a watch beside it: what has been latched, the edges as the watch met them and
the pulses it delivered, the latest first. -/
structure Watched where
  tracker : Tracker := {}
  made : List Tracker.Latch := []
  edges : List Edge := []
  pulses : List TimeSample := []

namespace Watched

/-- The edge as the watch meets it, which looks at the reference only then. -/
def metEdge (w : Watched) (clock : Binary64) (carrier : Bool) : Edge :=
  { clock, carrier, fix := some w.tracker.fixReference }

/-- All that is changed by an edge, given the pulse it makes. -/
def met (w : Watched) (clock : Binary64) (carrier : Bool) (pulse : Option TimeSample) : Watched :=
  { w with
    tracker := pulse.elim w.tracker fun s => (w.tracker.take .pps s).1
    edges := w.metEdge clock carrier :: w.edges
    pulses := pulse.toList ++ w.pulses }

/-- A turn of the tracker, or of a watch that is running and has its port. -/
def meet (w : Watched) : Occasion → Except Fault Watched
  | .heard e => do
    let (t, latched) ← w.tracker.hear e
    return { w with
      tracker := t, made := if latched then t.latched.toList ++ w.made else w.made }
  | .edge clock carrier => do
    let log ← PulseWatch.run { fixReference := w.tracker.fixReference } [w.metEdge clock carrier]
    return { w with
      tracker := log.pulses.foldl (fun t s => (t.take .pps s).1) w.tracker
      edges := w.metEdge clock carrier :: w.edges
      pulses := log.pulses.reverse ++ w.pulses }

/-- A new tracker and a new watch after a history. -/
def follow : List Occasion → Except Fault Watched
  | [] => .ok {}
  | o :: earlier => do (← follow earlier).meet o

def heard? : Occasion → Option Tracker.Event
  | .heard e => some e
  | .edge .. => none

/-- What the tracker has heard of in a history. -/
def heard (history : List Occasion) : List Tracker.Event := history.filterMap heard?

/-- What the pulse of an edge marks, given what has been latched. Whole seconds are there one by
one up to `2 ^ 53` only. -/
structure Marks (made : List Tracker.Latch) (clock : Binary64) (s : TimeSample) : Prop where
  clock : s.clock = clock
  next : ∃ l ∈ made.head?, Binary64.IsClosest (⌊l.1.value⌋ + 1 : Int) s.real ∧
    (l.1.value < Binary64.wholeBound → s.real.value = ⌊l.1.value⌋ + 1)
  whole : ∃ k : Int, s.real.value = k
  reached : ∀ l ∈ made, l.1.value ≤ s.real.value
  later : ∀ l ∈ made, l.1.value < Binary64.wholeBound → l.1.value < s.real.value

end Watched

namespace Tracker

variable {history : List Event} {t : Tracker}

/-- The second that a pulse marks now. -/
def nextSecond (t : Tracker) : Binary64 := .ofInt (⌊t.fixReference.value⌋ + 1)

theorem Holds.reference_pos_iff (holds : Holds history t) :
    0 < t.fixReference.value ↔ latches history ≠ [] := by
  rw [holds.reference]
  cases latched : latches history with
  | nil => simp [Tracker.reference]
  | cons l earlier =>
    have made : l ∈ latches history := latched ▸ List.mem_cons_self
    simpa [Tracker.reference] using (mem_latches made).2

theorem Holds.secondAfter (holds : Holds history t) : PulseWatch.secondAfter t.fixReference =
    .ok (if latches history = [] then none else some t.nextSecond) := by
  have early : t.fixReference.le .zero = true ↔ latches history = [] := by
    rw [Binary64.le_iff holds.finite rfl, Binary64.value_zero, ← not_lt, holds.reference_pos_iff,
      not_not]
  unfold PulseWatch.secondAfter
  by_cases none : latches history = []
  · rw [if_pos (early.mpr none), if_pos none]
  · rw [if_neg (mt early.mp none), if_neg none, Binary64.trunc_of_nonneg holds.finite holds.nonneg]
    rfl

theorem Holds.fits (holds : Holds history t) (fits : ∀ time ∈ fixes history, time.Fits) :
    t.fixReference.Fits := by
  rw [holds.reference]
  cases latched : latches history with
  | nil => decide
  | cons l earlier =>
    have made : l ∈ latches history := latched ▸ List.mem_cons_self
    exact fits l.1 (mem_latches made).1

/-- Nothing that was latched is in a later second than the reference. -/
theorem Holds.below (holds : Holds history t) {l : Latch} (made : l ∈ latches history) :
    l.1.value < (⌊t.fixReference.value⌋ + 1 : Int) := by
  obtain ⟨fixed, positive⟩ := mem_latches made
  have latest := holds.record.2 (.inr ⟨l.1, fixed, positive, rfl⟩)
  push_cast
  calc l.1.value < ⌊l.1.value⌋ + 1 := Int.lt_floor_add_one _
    _ ≤ ⌊t.fixReference.value⌋ + 1 := by exact_mod_cast Int.add_le_add_right latest 1

/-- A pulse is none of what the tracker latches from. -/
theorem Holds.pulsed (holds : Holds history t) (s : TimeSample) :
    Holds history (t.take .pps s).1 :=
  ⟨holds.report, holds.latched, holds.reference, holds.finite, holds.nonneg, holds.record⟩

theorem Holds.nextSecond_nonneg (holds : Holds history t) : 0 ≤ ⌊t.fixReference.value⌋ + 1 :=
  Int.add_nonneg (Int.floor_nonneg.mpr holds.nonneg) Int.one_nonneg

theorem Holds.nextSecond_isClosest (holds : Holds history t)
    (fits : ∀ time ∈ fixes history, time.Fits) :
    Binary64.IsClosest (⌊t.fixReference.value⌋ + 1 : Int) t.nextSecond :=
  Binary64.ofInt_isClosest holds.nextSecond_nonneg (holds.fits fits).next_lt

theorem Holds.marks (holds : Holds history t) (fits : ∀ time ∈ fixes history, time.Fits)
    (some : latches history ≠ []) (clock : Binary64) :
    Watched.Marks (latches history) clock ⟨clock, t.nextSecond⟩ := by
  have nonneg := holds.nextSecond_nonneg
  have small := (holds.fits fits).next_lt
  have closest := holds.nextSecond_isClosest fits
  constructor
  case clock => rfl
  case next =>
    obtain ⟨l, earlier, latched⟩ := List.exists_cons_of_ne_nil some
    have same : t.fixReference = l.1 := by
      rw [holds.reference, latched]
      rfl
    refine ⟨l, by rw [latched]; rfl, same ▸ closest, fun short => ?_⟩
    have exact : ⌊l.1.value⌋ + 1 ≤ Binary64.wholeBound := Int.floor_lt.mpr short
    rw [nextSecond, same]
    exact_mod_cast Binary64.ofInt_exact (same ▸ nonneg) exact
  case whole => exact Binary64.ofInt_whole nonneg small
  case reached =>
    intro l made
    exact closest.reaches (fits l.1 (mem_latches made).1) (holds.below made).le
  case later =>
    intro l made short
    exact Binary64.lt_ofInt nonneg small (holds.below made) short

end Tracker

/-- The log of a watch that had these pulses before. -/
def PulseLog.behind (earlier : List TimeSample) (log : PulseLog) : PulseLog :=
  { log with pulses := earlier ++ log.pulses }

namespace PulseWatch

/-- One edge of a watch that runs on. -/
theorem run_edge {clock r r' : Binary64} {carrier : Bool} {second : Option Binary64}
    (after : secondAfter r' = .ok second) (rest : List Edge) :
    run { fixReference := r } ({ clock, carrier, fix := some r' } :: rest) =
      (run { fixReference := r' } rest).map (.behind
        (if carrier then second.map (TimeSample.mk clock) else none).toList) := by
  have runs : run { fixReference := r } ({ clock, carrier, fix := some r' } :: rest) =
      if !carrier then run { fixReference := r' } rest
      else do
        let pulse ← secondAfter r'
        let log ← run { fixReference := r' } rest
        return { log with pulses := (pulse.map (TimeSample.mk clock)).toList ++ log.pulses } := rfl
  rw [runs, after]
  cases carrier <;> cases run { fixReference := r' } rest <;> rfl

end PulseWatch

namespace Desk

/-- A desk that has shown a pulse has counted it. -/
theorem takePulse_tracker {clock second : Binary64} {d : Desk}
    (calm : (takePulse clock second d).value = .ok ()) :
    (takePulse clock second d).state.tracker = (d.tracker.take .pps ⟨clock, second⟩).1 := by
  obtain ⟨_, shown, _⟩ := Act.bind_value_ok.mp calm
  rw [takePulse, Act.bind_ok shown]
  rfl

end Desk

namespace Watched

variable {history : List Occasion} {w : Watched}

/-- What there is after a history. The edges the watch met make one watch, which goes on with
whatever edges come. -/
structure Sound (history : List Occasion) (w : Watched) : Prop where
  holds : Tracker.Holds (heard history) w.tracker
  made : w.made = Tracker.latches (heard history)
  marked : ∀ s ∈ w.pulses, s.real.isFinite = true ∧ s.real.value ≤ w.tracker.nextSecond.value
  ordered : w.pulses.Pairwise fun s earlier => earlier.real.le s.real = true
  watched : ∃ r, ∀ rest, PulseWatch.run { fixReference := .zero } (w.edges.reverse ++ rest) =
    (PulseWatch.run { fixReference := r } rest).map (.behind w.pulses.reverse)

theorem sound_new : Sound [] {} where
  holds := Tracker.holds_new
  made := rfl
  marked := nofun
  ordered := .nil
  watched := by
    refine ⟨.zero, fun rest => ?_⟩
    show PulseWatch.run { fixReference := .zero } rest = _
    cases PulseWatch.run { fixReference := .zero } rest <;> rfl

/-- Hearing of something delivers nothing, and what comes next is marked no earlier than before. -/
theorem Sound.heard (sound : Sound history w) {e : Tracker.Event}
    (fits : ∀ time ∈ Tracker.fixes (Watched.heard (.heard e :: history)), time.Fits) :
    ∃ w', w.meet (.heard e) = .ok w' ∧ Sound (.heard e :: history) w' := by
  have now : ∀ time ∈ Tracker.fix? e, time.isFinite = true := fun time fixed =>
    (fits time (Tracker.mem_fixes_cons.mpr (.inl fixed))).isFinite
  obtain ⟨t, latched, hears, holds, answer, grown⟩ := sound.holds.hear now
  have latches := Tracker.latches_cons answer holds
  refine ⟨{ w with tracker := t, made := Tracker.latches (e :: Watched.heard history) }, ?_, ?_⟩
  · rw [meet, hears, ← latches, ← sound.made]
    rfl
  refine ⟨holds, rfl, fun s delivered => ?_, sound.ordered, sound.watched⟩
  obtain ⟨finite, before⟩ := sound.marked s delivered
  have floors : ⌊w.tracker.fixReference.value⌋ ≤ ⌊t.fixReference.value⌋ :=
    Int.floor_le_floor ((Binary64.le_iff sound.holds.finite holds.finite).mp grown)
  exact ⟨finite, before.trans (Binary64.ofInt_mono sound.holds.nextSecond_nonneg
    (Int.add_le_add_right floors 1) (holds.fits fits).next_lt)⟩

/-- The pulse of an edge, if it makes one. -/
def pulse? (w : Watched) (clock : Binary64) (carrier : Bool) : Option TimeSample :=
  if carrier = true ∧ w.made ≠ [] then some ⟨clock, w.tracker.nextSecond⟩ else none

theorem Sound.run_edge (sound : Sound history w) (clock r : Binary64) (carrier : Bool)
    (rest : List Edge) :
    PulseWatch.run { fixReference := r } (w.metEdge clock carrier :: rest) =
      (PulseWatch.run { fixReference := w.tracker.fixReference } rest).map
        (.behind (w.pulse? clock carrier).toList) := by
  have pulse : (if carrier then (if Tracker.latches (Watched.heard history) = [] then none
      else some w.tracker.nextSecond).map (TimeSample.mk clock) else none) =
      w.pulse? clock carrier := by
    rw [pulse?, sound.made]
    cases carrier <;> by_cases none : Tracker.latches (Watched.heard history) = [] <;> simp [none]
  rw [metEdge, PulseWatch.run_edge sound.holds.secondAfter, pulse]

theorem Sound.meet_edge (sound : Sound history w) (clock : Binary64) (carrier : Bool) :
    w.meet (.edge clock carrier) = .ok (w.met clock carrier (w.pulse? clock carrier)) := by
  rw [meet, sound.run_edge]
  cases w.pulse? clock carrier <;> rfl

/-- An edge keeps the tracker's record, and the watch goes on from the edge. -/
theorem Sound.edge (sound : Sound history w) (clock : Binary64) (carrier : Bool)
    (fits : ∀ time ∈ Tracker.fixes (Watched.heard history), time.Fits) :
    Sound (.edge clock carrier :: history) (w.met clock carrier (w.pulse? clock carrier)) := by
  have reference (pulse : Option TimeSample) :
      (w.met clock carrier pulse).tracker.fixReference = w.tracker.fixReference := by
    cases pulse <;> rfl
  have marks : ∀ s ∈ w.pulse? clock carrier, s.real = w.tracker.nextSecond := by
    simp +contextual [pulse?]
  have finite : w.tracker.nextSecond.isFinite = true :=
    (sound.holds.nextSecond_isClosest fits).fits.isFinite
  constructor
  case holds =>
    cases w.pulse? clock carrier with
    | none => exact sound.holds
    | some s => exact sound.holds.pulsed s
  case made => exact sound.made
  case marked =>
    intro s delivered
    rw [Tracker.nextSecond, reference]
    obtain now | before := List.mem_append.mp delivered
    · rw [marks s (Option.mem_toList.mp now)]
      exact ⟨finite, le_rfl⟩
    · exact sound.marked s before
  case ordered =>
    refine List.pairwise_append.mpr ⟨by cases w.pulse? clock carrier <;> simp, sound.ordered, ?_⟩
    intro s now earlier delivered
    obtain ⟨finite', before⟩ := sound.marked earlier delivered
    rw [marks s (Option.mem_toList.mp now)]
    exact (Binary64.le_iff finite' finite).mpr before
  case watched =>
    obtain ⟨r, watched⟩ := sound.watched
    refine ⟨w.tracker.fixReference, fun rest => ?_⟩
    have edges : (w.met clock carrier (w.pulse? clock carrier)).edges.reverse ++ rest =
        w.edges.reverse ++ (w.metEdge clock carrier :: rest) := by simp [met]
    have pulses : (w.met clock carrier (w.pulse? clock carrier)).pulses.reverse =
        w.pulses.reverse ++ (w.pulse? clock carrier).toList := by
      cases w.pulse? clock carrier <;> simp [met]
    rw [edges, watched, sound.run_edge, pulses]
    cases PulseWatch.run { fixReference := w.tracker.fixReference } rest with
    | error e => rfl
    | ok log => simp [Except.map, PulseLog.behind]

/-- Every history of fixes that numbers of 64 bits can tell is followed to its end. -/
theorem follow_sound (fits : ∀ time ∈ Tracker.fixes (heard history), time.Fits) :
    ∃ w, follow history = .ok w ∧ Sound history w := by
  induction history with
  | nil => exact ⟨{}, rfl, sound_new⟩
  | cons o earlier ih =>
    cases o with
    | heard e =>
      have before : ∀ time ∈ Tracker.fixes (heard earlier), time.Fits :=
        fun time fixed => fits time (Tracker.mem_fixes_cons.mpr (.inr fixed))
      obtain ⟨w, followed, sound⟩ := ih before
      obtain ⟨w', met, sound'⟩ := sound.heard fits
      refine ⟨w', ?_, sound'⟩
      rw [follow, followed]
      exact met
    | edge clock carrier =>
      obtain ⟨w, followed, sound⟩ := ih fits
      refine ⟨_, ?_, sound.edge clock carrier fits⟩
      rw [follow, followed]
      exact sound.meet_edge clock carrier

/-- **A pulse marks the second after the latest latched fix.** However fixes, reports and edges
come one after another, an edge makes a pulse exactly if the carrier is there and something has
been latched. The pulse marks the number nearest to the next whole second, and no earlier pulse
marked a later one. Of the tracker only the pulse is changed, and so it is at a desk that shows it.
The edges all together are one watch with these pulses. -/
theorem pulses_mark_next_second
    (fits : ∀ time ∈ Tracker.fixes (heard history), time.Fits) :
    ∃ w, follow history = .ok w ∧ w.made = Tracker.latches (heard history) ∧
      w.tracker.latched = w.made.head? ∧
      (w.pulses.Pairwise fun s earlier => earlier.real.le s.real = true) ∧
      (∃ last, PulseWatch.run { fixReference := .zero } w.edges.reverse =
        .ok ⟨w.pulses.reverse, last, []⟩) ∧
      ∀ clock carrier, ∃ pulse : Option TimeSample,
        w.meet (.edge clock carrier) = .ok (w.met clock carrier pulse) ∧
        (pulse.isSome = true ↔ carrier = true ∧ w.made ≠ []) ∧
        ∀ s ∈ pulse, Marks w.made clock s ∧
          ∀ d : Desk, d.tracker = w.tracker → (Desk.takePulse s.clock s.real d).value = .ok () →
            (Desk.takePulse s.clock s.real d).state.tracker =
              (w.met clock carrier pulse).tracker := by
  obtain ⟨w, followed, sound⟩ := follow_sound fits
  obtain ⟨r, watched⟩ := sound.watched
  refine ⟨w, followed, sound.made, sound.made ▸ sound.holds.latched, sound.ordered, ?_, ?_⟩
  · have whole := watched []
    simp only [List.append_nil, PulseWatch.run, Except.map, PulseLog.behind] at whole
    exact ⟨_, whole⟩
  intro clock carrier
  refine ⟨_, sound.meet_edge clock carrier, by simp [pulse?], fun s made => ?_⟩
  have there : carrier = true ∧ w.made ≠ [] := by
    by_contra none
    simp [pulse?, none] at made
  obtain rfl : ⟨clock, w.tracker.nextSecond⟩ = s := by simpa [pulse?, there] using made
  refine ⟨sound.made ▸ sound.holds.marks fits (sound.made ▸ there.2) clock, fun d same calm => ?_⟩
  rw [Desk.takePulse_tracker calm, same, made]
  rfl

/-- An edge before any fix makes no pulse, nor does one without the carrier. The second 101 comes
twice, later on as 101.25. -/
theorem pulses_mark_next_second_of_fixes :
    let history : List Occasion := [.edge (.ofInt 5) true, .heard (.fix (.finite false 405 (-2))),
      .heard (.fix (.ofInt 101)), .edge (.ofInt 4) false, .edge (.ofInt 3) true,
      .heard (.fix (.ofInt 99)), .heard (.fix (.ofInt 100)), .edge (.ofInt 2) true]
    (∀ time ∈ Tracker.fixes (heard history), time.Fits) ∧
      ((follow history).map fun w => (w.made, w.pulses)) = .ok
        ([(.ofInt 101, none), (.ofInt 100, none)],
          [⟨.ofInt 5, .ofInt 102⟩, ⟨.ofInt 3, .ofInt 101⟩]) ∧
      ∃ w, follow history = .ok w ∧ w.tracker.latched = w.made.head? := by
  intro history
  have fits : ∀ time ∈ Tracker.fixes (heard history), time.Fits := by decide +kernel
  obtain ⟨w, followed, _, latched, _⟩ := pulses_mark_next_second fits
  refine ⟨fits, ?_, w, followed, latched⟩
  decide +kernel

/-- Where not every whole number is there, the pulse may mark the second of the fix itself. -/
theorem pulse_marks_same_second_beyond :
    let fix := Binary64.ofInt 9007199254740992
    let history : List Occasion := [.edge (.ofInt 1) true, .heard (.fix fix)]
    (∀ time ∈ Tracker.fixes (heard history), time.isFinite = true) ∧
      ∃ s, ((follow history).map fun w => (w.made, w.pulses)) = .ok ([(fix, none)], [s]) ∧
        s.real.value ≠ ⌊fix.value⌋ + 1 ∧ ¬ fix.value < s.real.value := by
  intro fix history
  have value : fix.value = (9007199254740992 : Int) := Binary64.ofInt_exact (by decide) (by decide)
  refine ⟨by decide +kernel, ⟨.ofInt 1, fix⟩, by decide +kernel, ?_, lt_irrefl _⟩
  rw [value, Int.floor_intCast]
  norm_num

end Watched
end GnssMonitor
