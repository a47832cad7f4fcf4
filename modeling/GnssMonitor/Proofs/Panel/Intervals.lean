import GnssMonitor.Proofs.Binary64.Order
import GnssMonitor.Proofs.Panel.History

/-! How long the panel had to wait for each tagged packet, and which of them it shows as the one
awaited longest. Packets without a tag have no part in it. -/

namespace GnssMonitor

/-- A tagged packet, with the time that went by before it came. -/
structure Awaited where
  tag : String
  interval : Binary64
  deriving DecidableEq, Repr

namespace Panel

/-- When the latest tagged packet came, or else when the panel began. -/
def lastHeard (start : Binary64) (history : List Sighting) : Binary64 :=
  ((history.find? (·.tag.isSome)).map Sighting.now).getD start

/-- The tagged packets of a history, each with the time since the one before it. -/
def waits (start : Binary64) : List Sighting → List Awaited
  | [] => []
  | x :: earlier =>
    match x.tag with
    | some tag => ⟨tag, x.now - lastHeard start earlier⟩ :: waits start earlier
    | none => waits start earlier

/-- The first of the longest waits, or none where nothing was waited for. -/
inductive Longest : List Awaited → Option String → Binary64 → Prop
  | unawaited {heard : List Awaited} (short : ∀ w ∈ heard, Binary64.zero.lt w.interval = false) :
      Longest heard none .zero
  | awaited (later : List Awaited) {earlier : List Awaited} {w : Awaited}
      (positive : Binary64.zero.lt w.interval = true)
      (first : ∀ v ∈ earlier, w.interval.le v.interval = false)
      (greatest : ∀ v ∈ later, w.interval.lt v.interval = false) :
      Longest (later ++ w :: earlier) (some w.tag) w.interval

variable {p : Panel} {x : Sighting} {tag : String} {start longest : Binary64}
  {history : List Sighting} {heard : List Awaited} {shown : Option String} {w : Awaited}

theorem Longest.not_exceeded (is : Longest heard shown longest) :
    ∀ v ∈ heard, longest.lt v.interval = false := by
  cases is with
  | unawaited short => exact short
  | awaited _ _ first greatest =>
    intro v there
    simp only [List.mem_append, List.mem_cons] at there
    obtain later | rfl | earlier := there
    · exact greatest v later
    · exact Binary64.lt_self _
    · exact Binary64.lt_of_le_false (first v earlier)

/-- A longer wait takes the place of the one that was the longest. -/
theorem Longest.exceeded (is : Longest heard shown longest)
    (positive : Binary64.zero.lt w.interval = true) (longer : longest.lt w.interval = true) :
    Longest (w :: heard) (some w.tag) w.interval :=
  .awaited [] positive
    (fun v there => Binary64.le_of_lt_false longer (is.not_exceeded v there)) nofun

/-- Any other leaves it, also one that is just as long. -/
theorem Longest.kept (is : Longest heard shown longest)
    (short : ¬ (Binary64.zero.lt w.interval = true ∧ longest.lt w.interval = true)) :
    Longest (w :: heard) shown longest := by
  cases is with
  | unawaited none =>
    refine .unawaited (List.forall_mem_cons.mpr ⟨?_, none⟩)
    rwa [and_self, Bool.not_eq_true] at short
  | @awaited later earlier v positive first greatest =>
    refine .awaited (w :: later) positive first (List.forall_mem_cons.mpr ⟨?_, greatest⟩)
    rw [← Bool.not_eq_true]
    exact fun longer => short ⟨Binary64.lt_trans positive longer, longer⟩

theorem noteTime_longer (longer : Binary64.zero.lt (x.now - p.lastTick) = true ∧
      p.longestInterval.lt (x.now - p.lastTick) = true) :
    p.noteTime tag x.now = { p with
      lastTick := x.now, longestInterval := x.now - p.lastTick, longest := some tag } := by
  simp only [noteTime, if_pos longer]

theorem noteTime_short (short : ¬ (Binary64.zero.lt (x.now - p.lastTick) = true ∧
      p.longestInterval.lt (x.now - p.lastTick) = true)) :
    p.noteTime tag x.now = { p with lastTick := x.now } := by
  simp only [noteTime, if_neg short]

/-- The tags, and what a sentence says, are noted apart from the time. -/
theorem meet_timed (tagged : x.tag = some tag) : ∃ tags truncated fix used skyView group,
    p.meet x = { p.noteTime tag x.now with tags, truncated, fix, used, skyView, group } := by
  obtain ⟨tags, truncated, noted⟩ := noteTag_frame tag p
  have timed : (p.noteTag tag).noteTime tag x.now =
      { p.noteTime tag x.now with tags, truncated } := by
    rw [noted]
    unfold noteTime
    dsimp only
    split <;> rfl
  obtain ⟨fix, used, skyView, group, met⟩ := meet_frame (p := p) tagged
  rw [met, timed]
  exact ⟨_, _, fix, used, skyView, group, rfl⟩

/-- What the panel keeps of the times is what they were. -/
structure Timed (start : Binary64) (history : List Sighting) (p : Panel) : Prop where
  lastTick : p.lastTick = lastHeard start history
  longest : Longest (waits start history) p.longest p.longestInterval

theorem Timed.meet (timed : Timed start history p) (x : Sighting) :
    Timed start (x :: history) (p.meet x) := by
  cases tagged : x.tag with
  | none =>
    rw [meet_untagged tagged]
    refine ⟨?_, ?_⟩
    · simpa [lastHeard, tagged] using timed.lastTick
    · simpa [waits, tagged] using timed.longest
  | some tag =>
    have heard : lastHeard start (x :: history) = x.now := by simp [lastHeard, tagged]
    have waited : waits start (x :: history) =
        ⟨tag, x.now - p.lastTick⟩ :: waits start history := by
      simp [waits, tagged, timed.lastTick]
    obtain ⟨tags, truncated, fix, used, skyView, group, met⟩ := meet_timed (p := p) tagged
    rw [met]
    by_cases longer : Binary64.zero.lt (x.now - p.lastTick) = true ∧
        p.longestInterval.lt (x.now - p.lastTick) = true
    · rw [noteTime_longer longer]
      refine ⟨heard.symm, ?_⟩
      rw [waited]
      exact timed.longest.exceeded (w := ⟨tag, x.now - p.lastTick⟩) longer.1 longer.2
    · rw [noteTime_short longer]
      refine ⟨heard.symm, ?_⟩
      rw [waited]
      exact timed.longest.kept longer

theorem after_timed (start : Binary64) (history : List Sighting) :
    Timed start history ((fresh start).after history) := by
  induction history with
  | nil => exact ⟨rfl, .unawaited nofun⟩
  | cons x earlier ih => exact ih.meet x

/-- The greatest of some numbers: one of them, and none is above it. -/
def IsGreatest (numbers : List Binary64) (n : Binary64) : Prop :=
  n ∈ numbers ∧ ∀ m ∈ numbers, n.lt m = false

theorem Longest.isGreatest (is : Longest heard shown longest) :
    IsGreatest (.zero :: heard.map Awaited.interval) longest := by
  have bound : ∀ m ∈ heard.map Awaited.interval, longest.lt m = false := by
    simpa using is.not_exceeded
  cases is with
  | unawaited _ =>
    exact ⟨List.mem_cons_self, List.forall_mem_cons.mpr ⟨Binary64.lt_self _, bound⟩⟩
  | awaited _ positive =>
    refine ⟨by simp, List.forall_mem_cons.mpr ⟨?_, bound⟩⟩
    rw [← Bool.not_eq_true]
    intro below
    exact absurd (Binary64.lt_trans positive below) (by simp [Binary64.lt_self])

theorem Longest.none_iff (is : Longest heard shown longest) :
    shown = none ↔ ∀ w ∈ heard, Binary64.zero.lt w.interval = false := by
  cases is with
  | unawaited short => exact iff_of_true rfl short
  | @awaited later earlier w positive =>
    refine iff_of_false (Option.some_ne_none _) fun short => ?_
    have awaited : w ∈ later ++ w :: earlier := by simp
    exact absurd (short w awaited) (by simp [positive])

theorem Longest.first (is : Longest heard (some tag) longest) : ∃ later earlier,
    heard = later ++ ⟨tag, longest⟩ :: earlier ∧ ∀ w ∈ earlier, longest.le w.interval = false := by
  cases is with
  | awaited _ _ first => exact ⟨_, _, rfl, first⟩

/-- **The tag in bold is the one awaited longest.** The interval is the greatest of zero and all
those between tagged packets, whatever the clock shows. The tag is that of the first packet with
this interval, and there is none if nothing was waited for. A packet without a tag changes
nothing. -/
theorem longest_is_first_greatest (start : Binary64) (history : List Sighting) :
    let p := (fresh start).after history
    let heard := waits start history
    IsGreatest (.zero :: heard.map Awaited.interval) p.longestInterval ∧
      (p.longest = none ↔ ∀ w ∈ heard, Binary64.zero.lt w.interval = false) ∧
      (∀ tag, p.longest = some tag → ∃ later earlier,
        heard = later ++ ⟨tag, p.longestInterval⟩ :: earlier ∧
          ∀ w ∈ earlier, p.longestInterval.le w.interval = false) ∧
      ∀ x, x.tag = none → p.meet x = p := by
  intro p heard
  have is : Longest heard p.longest p.longestInterval := (after_timed start history).longest
  exact ⟨is.isGreatest, is.none_iff, fun tag shown => (shown ▸ is).first,
    fun x => meet_untagged⟩

/-- The clock goes back between two sentences, an object of no tag comes while the third is waited
for, and the last is waited for as long as the third. -/
theorem longest_is_first_greatest_of_tie :
    let sentence (tag : String) (now : Int) : Sighting :=
      ⟨⟨.nmea, Bytes.ofString s!"${tag}"⟩, some [tag], none, .ofInt now⟩
    let object : Sighting := ⟨⟨.json, Bytes.ofString "\x7b"⟩, some ["GPGSV"], none, .ofInt 8⟩
    let history := [sentence "GPZDA" 13, sentence "GPRMC" 9, object, sentence "GPGGA" 5,
      sentence "GPGSA" 6]
    let start := Binary64.ofInt 4
    let p := (fresh start).after history
    object.tag = none ∧ p.longest = some "GPRMC" ∧ p.longestInterval = .ofInt 4 ∧
      (waits start history).map Awaited.interval = [.ofInt 4, .ofInt 4, .ofInt (-1), .ofInt 2] ∧
      p.meet object = p ∧ ∃ later earlier,
        waits start history = later ++ ⟨"GPRMC", p.longestInterval⟩ :: earlier ∧
          ∀ w ∈ earlier, p.longestInterval.le w.interval = false := by
  intro sentence object history start p
  have untagged : object.tag = none := by decide +kernel
  have shown : p.longest = some "GPRMC" := by decide +kernel
  obtain ⟨-, -, first, kept⟩ := longest_is_first_greatest start history
  exact ⟨untagged, shown, by decide +kernel, by decide +kernel, kept object untagged,
    first _ shown⟩

end Panel
end GnssMonitor
