import Mathlib.Algebra.Ring.Nat
import GnssMonitor.Calendar

/-! Dates are told from the number of their day, and instants are taken apart into date and time of
day. -/

namespace GnssMonitor

namespace Date

section Months

variable {lengths : List Nat} {k n day : Nat}

/-- A day of a month is found again behind the months before it. -/
theorem monthAndDay_of_day (month : Nat) (there : lengths[k]? = some n) (short : day < n) :
    monthAndDay month lengths ((lengths.take k).sum + day) = (month + k, day + 1) := by
  induction k generalizing month lengths with
  | zero =>
    obtain ⟨more, rfl⟩ : ∃ more, lengths = n :: more := by
      cases lengths with
      | nil => simp at there
      | cons m more => exact ⟨more, by simpa using there⟩
    simp [monthAndDay, short]
  | succ k ih =>
    cases lengths with
    | nil => simp at there
    | cons m more =>
      have behind : ¬ m + ((more.take k).sum + day) < m := by omega
      rw [List.take_succ_cons, List.sum_cons, Nat.add_assoc, monthAndDay, if_neg behind,
        Nat.add_sub_cancel_left, ih (month + 1) (by simpa using there), Nat.add_assoc,
        Nat.add_comm 1 k]

theorem sum_take_lt (there : lengths[k]? = some n) (short : day < n) :
    (lengths.take k).sum + day < lengths.sum := by
  obtain ⟨within, here⟩ := List.getElem?_eq_some_iff.mp there
  have whole : lengths.sum = (lengths.take k).sum + (n + (lengths.drop (k + 1)).sum) := by
    rw [← here, ← List.sum_cons, ← List.drop_eq_getElem_cons within, ← List.sum_append_nat,
      List.take_append_drop]
  omega

end Months

/-- A year is found again by its place in the cycles of 400, 100 and 4 years. Only the last year of
a cycle of four may have one day more, and that of a cycle of a hundred must be the last of all. -/
theorem cycles {a b c e r : Nat} (hundreds : b ≤ 3) (fours : c ≤ 24) (ones : e ≤ 3)
    (short : r < 365 ∨ r = 365 ∧ e = 3 ∧ (c = 24 → b = 3)) :
    let n := 146097 * a + (36524 * b + (1461 * c + (365 * e + r)))
    n / 146097 = a ∧ min (n % 146097 / 36524) 3 = b ∧
      (n % 146097 - b * 36524) / 1461 = c ∧ min ((n % 146097 - b * 36524) % 1461 / 365) 3 = e ∧
      (n % 146097 - b * 36524) % 1461 - e * 365 = r := by
  intro n
  have whole : n / 146097 = a ∧ n % 146097 = 36524 * b + (1461 * c + (365 * e + r)) := by omega
  have year : (1461 * c + (365 * e + r)) / 1461 = c ∧
      (1461 * c + (365 * e + r)) % 1461 = 365 * e + r := by omega
  have century : min ((36524 * b + (1461 * c + (365 * e + r))) / 36524) 3 = b := by omega
  rw [whole.2, Nat.mul_comm b, Nat.add_sub_cancel_left, year.2]
  exact ⟨whole.1, century, year.1, by omega, by omega⟩

theorem exists_cycles {year : Nat} (pos : 1 ≤ year) : ∃ a b c e, b ≤ 3 ∧ c ≤ 24 ∧ e ≤ 3 ∧
    year = 400 * a + 100 * b + 4 * c + e + 1 := by
  refine ⟨(year - 1) / 400, (year - 1) % 400 / 100, (year - 1) % 100 / 4, (year - 1) % 4, ?_⟩
  omega

section Cycles

variable {a b c e : Nat}

theorem daysBefore_cycles (fours : c ≤ 24) (ones : e ≤ 3) (hundreds : b ≤ 3) :
    daysBefore (400 * a + 100 * b + 4 * c + e + 1) =
      146097 * a + 36524 * b + 1461 * c + 365 * e := by
  simp only [daysBefore, Nat.add_sub_cancel]
  omega

theorem isLeap_cycles (fours : c ≤ 24) (ones : e ≤ 3) (hundreds : b ≤ 3) :
    isLeap (400 * a + 100 * b + 4 * c + e + 1) = true ↔ e = 3 ∧ (c = 24 → b = 3) := by
  simp only [isLeap, Bool.and_eq_true, Bool.or_eq_true, beq_iff_eq, bne_iff_ne]
  omega

theorem sum_monthLengths (leap : Bool) : (monthLengths leap).sum = if leap then 366 else 365 := by
  cases leap <;> rfl

/-- A year with a day more is the last of four, and if it is the last of a hundred also the last of
four hundred. -/
theorem day_in_cycles {r : Nat} (hundreds : b ≤ 3) (fours : c ≤ 24) (ones : e ≤ 3)
    (inYear : r < (monthLengths (isLeap (400 * a + 100 * b + 4 * c + e + 1))).sum) :
    r < 365 ∨ r = 365 ∧ e = 3 ∧ (c = 24 → b = 3) := by
  rw [sum_monthLengths] at inYear
  by_cases usual : r < 365
  · exact .inl usual
  · split at inYear
    · rename_i leap
      exact .inr ⟨by omega, (isLeap_cycles fours ones hundreds).mp leap⟩
    · contradiction

end Cycles

variable {d : Date}

theorem isValid_iff : d.isValid = true ↔
    1 ≤ d.year ∧ d.year ≤ lastYear ∧ 1 ≤ d.month ∧ 1 ≤ d.day ∧
      ∃ n, (monthLengths (isLeap d.year))[d.month - 1]? = some n ∧ d.day ≤ n := by
  unfold isValid
  cases (monthLengths (isLeap d.year))[d.month - 1]? <;> simp [and_assoc]

theorem number_eq (d : Date) : d.number = daysBefore d.year +
    (((monthLengths (isLeap d.year)).take (d.month - 1)).sum + (d.day - 1)) := by
  rw [number, ← List.sum_eq_foldl_nat, Nat.add_assoc]

/-- **A date is told from the number of its day.** -/
theorem ofNumber_number (valid : d.isValid = true) : ofNumber d.number = d := by
  obtain ⟨year, -, month, day, n, there, within⟩ := isValid_iff.mp valid
  have short : d.day - 1 < n := by omega
  have found := monthAndDay_of_day 1 there short
  have inYear := sum_take_lt there short
  rw [number_eq]
  generalize ((monthLengths (isLeap d.year)).take (d.month - 1)).sum + (d.day - 1) = r
    at found inYear ⊢
  obtain ⟨a, b, c, e, hundreds, fours, ones, split⟩ := exists_cycles year
  have few := day_in_cycles hundreds fours ones (split ▸ inYear)
  obtain ⟨h400, h100, h4, h1, left⟩ := cycles (a := a) hundreds fours ones few
  have days : daysBefore d.year + r =
      146097 * a + (36524 * b + (1461 * c + (365 * e + r))) := by
    rw [split, daysBefore_cycles fours ones hundreds]
    omega
  simp only [ofNumber, days, h400, h100, h4, h1, left, ← split, found]
  rw [Nat.add_sub_cancel' month, Nat.sub_add_cancel day]

/-- The day of a date is in its year. -/
theorem number_bounds (valid : d.isValid = true) :
    daysBefore d.year ≤ d.number ∧ d.number < daysBefore d.year + 366 := by
  obtain ⟨-, -, -, day, n, there, within⟩ := isValid_iff.mp valid
  have inYear := sum_take_lt there (show d.day - 1 < n by omega)
  have most : (monthLengths (isLeap d.year)).sum ≤ 366 := by
    rw [sum_monthLengths]
    split <;> omega
  rw [number_eq]
  omega

end Date

theorem TimeOfDay.lt_day {t : TimeOfDay} (valid : t.isValid = true) :
    t.seconds * 1000000 + t.micro < 86400000000 := by
  simp only [isValid, Bool.and_eq_true, decide_eq_true_eq] at valid
  simp only [seconds]
  omega

namespace Instant

variable {d : Date} {t : TimeOfDay}

/-- Date and time of day as they are written, without an offset. -/
def civilText (d : Date) (t : TimeOfDay) : String :=
  s!"{padded 4 d.year}-{padded 2 d.month}-{padded 2 d.day}T" ++
    s!"{padded 2 t.hour}:{padded 2 t.minute}:{padded 2 t.second}" ++
    (if t.micro = 0 then "" else "." ++ padded 6 t.micro)

/-- An instant is written as the date and the time of day that it is made of. -/
theorem text_ofCivil (date : d.isValid = true) (time : t.isValid = true) :
    (ofCivil d t).text = civilText d t ++ "+00:00" := by
  have within := TimeOfDay.lt_day time
  simp only [TimeOfDay.isValid, Bool.and_eq_true, decide_eq_true_eq] at time
  obtain ⟨⟨⟨hour, minute⟩, second⟩, micro⟩ := time
  have day : (ofCivil d t).micros.fdiv microsPerDay = d.number - epochDay := by
    rw [Int.fdiv_eq_ediv_of_nonneg _ (by decide)]
    simp only [ofCivil, microsPerDay]
    omega
  have rest : ((ofCivil d t).micros.fmod microsPerDay).toNat = t.seconds * 1000000 + t.micro := by
    rw [Int.fmod_eq_emod_of_nonneg _ (by decide)]
    simp only [ofCivil, microsPerDay]
    omega
  have date' : Date.ofNumber ((d.number - epochDay : Int) + epochDay).toNat = d := by
    rw [Int.sub_add_cancel, Int.toNat_natCast, Date.ofNumber_number date]
  have seconds : (t.seconds * 1000000 + t.micro) / 1000000 = t.seconds ∧
      (t.seconds * 1000000 + t.micro) % 1000000 = t.micro := by omega
  have clock : t.seconds / 3600 = t.hour ∧ t.seconds / 60 % 60 = t.minute ∧
      t.seconds % 60 = t.second := by
    simp only [TimeOfDay.seconds]
    omega
  unfold text
  simp only [day, rest, date', seconds, clock]
  rfl

end Instant
end GnssMonitor
