import GnssMonitor.Proofs.Binary64
import GnssMonitor.TimeOffset

/-! When a tracker latches. It compares a fix with the last one it latched only, yet that one has
been the greatest second of all. Histories are told with the latest event first. -/

namespace GnssMonitor.Tracker

/-- What a tracker hears of: a time report of either kind, or the time of a fix. -/
inductive Event
  | sample (kind : TimeReportKind) (s : TimeSample)
  | fix (time : Binary64)

/-- What the tracker makes of an event; the answer is whether it latched. -/
def hear (e : Event) (t : Tracker) : Except Fault (Tracker × Bool) :=
  match e with
  | .sample kind s => .ok ((t.take kind s).1, false)
  | .fix time => t.afterPacket time

/-- A latch: the time of the fix, and the report it was latched with. -/
abbrev Latch := Binary64 × Option TimeSample

/-- A new tracker after a history, and what it has latched. -/
def follow : List Event → Except Fault (Tracker × List Latch)
  | [] => .ok ({}, [])
  | e :: earlier => do
    let (t, made) ← follow earlier
    let (t, latched) ← t.hear e
    return (t, if latched then t.latched.toList ++ made else made)

def fix? : Event → Option Binary64
  | .fix time => some time
  | .sample .. => none

def report? : Event → Option TimeSample
  | .sample .toff s => some s
  | _ => none

/-- The times of the fixes of a history. -/
def fixes (history : List Event) : List Binary64 := history.filterMap fix?

theorem mem_fixes_cons {e : Event} {earlier : List Event} {time : Binary64} :
    time ∈ fixes (e :: earlier) ↔ time ∈ fix? e ∨ time ∈ fixes earlier := by
  cases e <;> simp [fixes, fix?, eq_comm]

/-- The latest report of a history; pulses are none. -/
def current (history : List Event) : Option TimeSample := (history.filterMap report?).head?

/-- The fix is in a second that is later than those of all positive fixes before. -/
def Due (earlier : List Event) (time : Binary64) : Prop :=
  0 < time.value ∧ 0 < ⌊time.value⌋ ∧
    ∀ y ∈ fixes earlier, 0 < y.value → ⌊y.value⌋ < ⌊time.value⌋

instance (earlier : List Event) (time : Binary64) : Decidable (Due earlier time) :=
  inferInstanceAs (Decidable (_ ∧ _ ∧ _))

/-- What is to be latched: each fix that is due, with the report that is current then. -/
def latches : List Event → List Latch
  | [] => []
  | .sample .. :: earlier => latches earlier
  | .fix time :: earlier =>
    if Due earlier time then (time, current earlier) :: latches earlier else latches earlier

/-- The last fix that was latched, zero before the first. -/
def reference (made : List Latch) : Binary64 := (made.head?.map Prod.fst).getD .zero

/-- The seconds that a fix has to be later than. -/
def pastSeconds (history : List Event) : Set Int :=
  {n | n = 0 ∨ ∃ y ∈ fixes history, 0 < y.value ∧ ⌊y.value⌋ = n}

theorem due_iff {earlier : List Event} {time : Binary64} :
    Due earlier time ↔ 0 < time.value ∧ ∀ n ∈ pastSeconds earlier, n < ⌊time.value⌋ := by
  constructor
  · rintro ⟨positive, begun, later⟩
    refine ⟨positive, ?_⟩
    rintro n (rfl | ⟨y, fixed, past, rfl⟩)
    · exact begun
    · exact later y fixed past
  · rintro ⟨positive, later⟩
    exact ⟨positive, later 0 (.inl rfl), fun y fixed past => later _ (.inr ⟨y, fixed, past, rfl⟩)⟩

theorem mem_pastSeconds_fix {earlier : List Event} {time : Binary64} {n : Int} :
    n ∈ pastSeconds (.fix time :: earlier) ↔
      n ∈ pastSeconds earlier ∨ 0 < time.value ∧ ⌊time.value⌋ = n := by
  simp only [pastSeconds, Set.mem_ofPred_eq, mem_fixes_cons, fix?, Option.mem_some]
  grind

/-- What a tracker holds after a history. Its reference is the record over all fixes. -/
structure Holds (history : List Event) (t : Tracker) : Prop where
  report : t.report = current history
  latched : t.latched = (latches history).head?
  reference : t.fixReference = reference (latches history)
  finite : t.fixReference.isFinite = true
  nonneg : 0 ≤ t.fixReference.value
  record : IsGreatest (pastSeconds history) ⌊t.fixReference.value⌋

theorem holds_new : Holds [] {} where
  report := rfl
  latched := rfl
  reference := rfl
  finite := rfl
  nonneg := Binary64.value_zero.ge
  record := by simp [pastSeconds, fixes]

variable {history : List Event} {t : Tracker} {time : Binary64}

/-- To compare with the last latched fix is to compare with all of them. -/
theorem Holds.due_iff (holds : Holds history t) :
    Due history time ↔ 0 < time.value ∧ ⌊t.fixReference.value⌋ < ⌊time.value⌋ := by
  rw [Tracker.due_iff, holds.record.lt_iff]

theorem afterPacket_of_not_pos (t : Tracker) (finite : time.isFinite = true)
    (notPos : ¬ 0 < time.value) : t.afterPacket time = .ok (t, false) := by
  have early : time.le .zero = true := by
    rw [Binary64.le_iff finite rfl, Binary64.value_zero]
    exact not_lt.mp notPos
  simp [Tracker.afterPacket, early]

/-- A fix is compared by its second with the one that was latched last. -/
theorem Holds.afterPacket_of_pos (holds : Holds history t) (finite : time.isFinite = true)
    (positive : 0 < time.value) : t.afterPacket time = .ok
      (if ⌊time.value⌋ ≤ ⌊t.fixReference.value⌋ then (t, false)
      else ({ t with latched := some (time, t.report), fixReference := time }, true)) := by
  have late : time.le .zero = false := by
    rw [← Bool.not_eq_true, Binary64.le_iff finite rfl, Binary64.value_zero]
    exact not_le.mpr positive
  rw [Tracker.afterPacket, late, Binary64.trunc_of_nonneg finite positive.le,
    Binary64.trunc_of_nonneg holds.finite holds.nonneg]
  show (if ⌊time.value⌋ ≤ ⌊t.fixReference.value⌋ then Except.ok (t, false) else _) = _
  split <;> rfl

theorem Holds.afterPacket (holds : Holds history t) (finite : time.isFinite = true) :
    t.afterPacket time = .ok (if Due history time then
      ({ t with latched := some (time, current history), fixReference := time }, true)
      else (t, false)) := by
  by_cases positive : 0 < time.value
  · have due : Due history time ↔ ¬ ⌊time.value⌋ ≤ ⌊t.fixReference.value⌋ := by
      rw [holds.due_iff, not_le]
      exact and_iff_right positive
    rw [holds.afterPacket_of_pos finite positive, holds.report]
    by_cases behind : ⌊time.value⌋ ≤ ⌊t.fixReference.value⌋ <;> simp [due, behind]
  · have undue : ¬ Due history time := fun due => positive due.1
    rw [afterPacket_of_not_pos t finite positive, if_neg undue]

theorem Holds.sample (holds : Holds history t) (kind : TimeReportKind) (s : TimeSample) :
    Holds (.sample kind s :: history) (t.take kind s).1 := by
  have same : fixes (.sample kind s :: history) = fixes history := rfl
  have record : pastSeconds (.sample kind s :: history) = pastSeconds history := by
    unfold pastSeconds
    rw [same]
  cases kind with
  | toff => exact ⟨rfl, holds.latched, holds.reference, holds.finite, holds.nonneg,
      record ▸ holds.record⟩
  | pps => exact ⟨holds.report, holds.latched, holds.reference, holds.finite, holds.nonneg,
      record ▸ holds.record⟩

theorem Holds.due (holds : Holds history t) (finite : time.isFinite = true)
    (due : Due history time) : Holds (.fix time :: history)
      { t with latched := some (time, current history), fixReference := time } where
  report := holds.report
  latched := by simp [latches, due]
  reference := by simp [latches, due, Tracker.reference]
  finite := finite
  nonneg := due.1.le
  record := by
    constructor
    · exact mem_pastSeconds_fix.mpr (.inr ⟨due.1, rfl⟩)
    · intro n past
      obtain before | ⟨_, rfl⟩ := mem_pastSeconds_fix.mp past
      · exact ((Tracker.due_iff.mp due).2 n before).le
      · exact le_rfl

theorem Holds.undue (holds : Holds history t) (undue : ¬ Due history time) :
    Holds (.fix time :: history) t where
  report := holds.report
  latched := by simp [latches, undue, holds.latched]
  reference := by simp [latches, undue, holds.reference]
  finite := holds.finite
  nonneg := holds.nonneg
  record := by
    constructor
    · exact mem_pastSeconds_fix.mpr (.inl holds.record.1)
    · intro n past
      obtain before | ⟨positive, rfl⟩ := mem_pastSeconds_fix.mp past
      · exact holds.record.2 before
      · exact not_lt.mp fun later => undue (holds.due_iff.mpr ⟨positive, later⟩)

/-- The event latches: it is a fix, and that is due. -/
def Latches (history : List Event) (e : Event) : Prop := ∃ time, e = .fix time ∧ Due history time

/-- What the next event comes to. -/
theorem Holds.hear (holds : Holds history t) {e : Event}
    (finite : ∀ time ∈ fix? e, time.isFinite = true) :
    ∃ t' latched, t.hear e = .ok (t', latched) ∧ Holds (e :: history) t' ∧
      (latched = true ↔ Latches history e) ∧ t.fixReference.le t'.fixReference = true := by
  have still : t.fixReference.le t.fixReference = true :=
    (Binary64.le_iff holds.finite holds.finite).mpr le_rfl
  cases e with
  | sample kind s =>
    refine ⟨_, false, rfl, holds.sample kind s, by simp [Latches], ?_⟩
    cases kind <;> exact still
  | fix time =>
    have finite := finite time rfl
    have heard := holds.afterPacket finite
    by_cases due : Due history time
    · rw [if_pos due] at heard
      refine ⟨_, true, heard, holds.due finite due, by simp [Latches, due], ?_⟩
      have later := (holds.due_iff.mp due).2
      exact (Binary64.le_iff holds.finite finite).mpr (Int.floor_mono.reflect_lt later).le
    · rw [if_neg due] at heard
      exact ⟨t, false, heard, holds.undue due, by simp [Latches, due], still⟩

theorem latches_cons {e : Event} {latched : Bool} (answer : latched = true ↔ Latches history e)
    (holds : Holds (e :: history) t) :
    (if latched then t.latched.toList ++ latches history else latches history) =
      latches (e :: history) := by
  rw [holds.latched]
  cases e with
  | sample kind s =>
    have passed : ¬ latched = true := by simp [answer, Latches]
    simp [passed, latches]
  | fix time => by_cases due : Due history time <;> simp_all [Latches, latches]

/-- Every history of finite fixes is followed to its end. -/
theorem follow_holds (finite : ∀ time ∈ fixes history, time.isFinite = true) :
    ∃ t, follow history = .ok (t, latches history) ∧ Holds history t := by
  induction history with
  | nil => exact ⟨{}, rfl, holds_new⟩
  | cons e earlier ih =>
    have before : ∀ time ∈ fixes earlier, time.isFinite = true :=
      fun time fixed => finite time (mem_fixes_cons.mpr (.inr fixed))
    have now : ∀ time ∈ fix? e, time.isFinite = true :=
      fun time fixed => finite time (mem_fixes_cons.mpr (.inl fixed))
    obtain ⟨t, followed, holds⟩ := ih before
    obtain ⟨t', latched, heard, holds', answer, _⟩ := holds.hear now
    refine ⟨t', ?_, holds'⟩
    rw [follow, followed, ← latches_cons answer holds']
    simp only [bind, Except.bind, heard]
    rfl

theorem mem_latches {l : Latch} (made : l ∈ latches history) :
    l.1 ∈ fixes history ∧ 0 < l.1.value := by
  induction history with
  | nil => contradiction
  | cons e earlier ih =>
    have before (made : l ∈ latches earlier) : l.1 ∈ fixes (e :: earlier) ∧ 0 < l.1.value :=
      ⟨mem_fixes_cons.mpr (.inr (ih made).1), (ih made).2⟩
    cases e with
    | sample => exact before made
    | fix time =>
      by_cases due : Due earlier time
      · obtain rfl | made := List.mem_cons.mp (by simpa [latches, due] using made)
        · exact ⟨mem_fixes_cons.mpr (.inl rfl), due.1⟩
        · exact before made
      · exact before (by simpa [latches, due] using made)

/-- A later latch is of a later second. -/
theorem latches_increase (history : List Event) :
    (latches history).Pairwise fun l earlier => ⌊earlier.1.value⌋ < ⌊l.1.value⌋ := by
  induction history with
  | nil => exact .nil
  | cons e earlier ih =>
    cases e with
    | sample => exact ih
    | fix time =>
      by_cases due : Due earlier time
      · rw [latches, if_pos due]
        refine .cons (fun l made => ?_) ih
        obtain ⟨fixed, positive⟩ := mem_latches made
        exact due.2.2 l.1 fixed positive
      · rw [latches, if_neg due]
        exact ih

/-- **A report is latched once for each new second of the fixes.** Whatever reports, pulses and
finite fixes there are, in whatever order, the latches are those of the fixes that are due, each
with the report that was current then, and so of ever later seconds. The reference is the fix
latched last, and does not decrease with whatever comes next. -/
theorem latches_each_new_second (finite : ∀ time ∈ fixes history, time.isFinite = true) :
    ∃ t, follow history = .ok (t, latches history) ∧
      t.latched = (latches history).head? ∧ t.fixReference = reference (latches history) ∧
      ((latches history).Pairwise fun l earlier => ⌊earlier.1.value⌋ < ⌊l.1.value⌋) ∧
      ∀ e, (∀ time ∈ fix? e, time.isFinite = true) →
        ∃ t' latched, t.hear e = .ok (t', latched) ∧ (latched = true ↔ Latches history e) ∧
          t.fixReference.le t'.fixReference = true := by
  obtain ⟨t, followed, holds⟩ := follow_holds finite
  refine ⟨t, followed, holds.latched, holds.reference, latches_increase history, ?_⟩
  intro e finite
  obtain ⟨t', latched, heard, _, answer, grown⟩ := holds.hear finite
  exact ⟨t', latched, heard, answer, grown⟩

/-- A report, then the seconds 100 twice, 99 and 101 with a pulse between. -/
theorem latches_each_new_second_of_report :
    let s : TimeSample := ⟨.ofInt 100, .ofInt 100⟩
    let history : List Event := [.fix (.ofInt 101), .sample .pps s, .fix (.ofInt 99),
      .fix (.ofInt 100), .fix (.ofInt 100), .sample .toff s]
    (∀ time ∈ fixes history, time.isFinite = true) ∧
      (follow history).map (·.2) = .ok [(.ofInt 101, some s), (.ofInt 100, some s)] ∧
      ∃ t, follow history = .ok (t, latches history) ∧
        t.fixReference = reference (latches history) := by
  intro s history
  have finite : ∀ time ∈ fixes history, time.isFinite = true := by decide +kernel
  obtain ⟨t, followed, _, reference, _⟩ := latches_each_new_second finite
  refine ⟨finite, ?_, t, followed, reference⟩
  decide +kernel

end GnssMonitor.Tracker
