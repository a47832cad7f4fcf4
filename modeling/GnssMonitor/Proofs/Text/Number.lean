import Mathlib.Data.List.TakeWhile
import GnssMonitor.Text.Number

/-! A row of digits is read as the number that it stands for, unless there are too many of them. -/

namespace GnssMonitor.Text

theorem isBlank_of_isDigit {c : Char} (digit : isDigit c = true) : isBlank c = false := by
  have apart : ∀ r ∈ digitRanges, ∀ q ∈ blankRanges, r.2 < q.1 ∨ q.2 < r.1 := by decide
  unfold isDigit digit? at digit
  rw [Option.isSome_map] at digit
  obtain ⟨r, found⟩ := Option.isSome_iff_exists.mp digit
  have within := List.find?_some found
  have known := List.mem_of_find?_eq_some found
  simp only [Bool.and_eq_true, decide_eq_true_eq] at within
  apply Bool.eq_false_iff.mpr
  intro blank
  simp only [isBlank, inRanges, List.any_eq_true, Bool.and_eq_true, decide_eq_true_eq] at blank
  obtain ⟨q, listed, low, high⟩ := blank
  have := apart r known q listed
  omega

theorem isNumberBlank_of_isDigit {c : Char} (digit : isDigit c = true) :
    isNumberBlank c = false := by
  rw [isNumberBlank, isBlank_of_isDigit digit, Bool.false_and]

theorem ne_of_isDigit {c d : Char} (digit : isDigit c = true) (other : isDigit d = false) :
    c ≠ d := by
  rintro rfl
  rw [digit] at other
  contradiction

variable {digits : List Char}

theorem groupedFrom_digits (all : ∀ c ∈ digits, isDigit c = true) (after : Bool) :
    groupedFrom after digits = true := by
  induction digits generalizing after with
  | nil => rfl
  | cons c rest ih =>
    have plain : c ≠ '_' := ne_of_isDigit (all c List.mem_cons_self) (by decide)
    have others := ih fun d there => all d (List.mem_cons_of_mem c there)
    cases rest with
    | nil => simp [groupedFrom, plain]
    | cons d rest => simp [groupedFrom, plain, others]

/-- A row of digits is read as the number that it stands for. -/
theorem readInteger_digits (all : ∀ c ∈ digits, isDigit c = true) (some : digits ≠ []) :
    readInteger digits = if digitLimit < digits.length then .error (.tooManyDigits digits.length)
      else .ok (digitsValue digits) := by
  obtain ⟨c, rest, rfl⟩ := List.exists_cons_of_ne_nil some
  have first := all c List.mem_cons_self
  have unsigned : splitSign (c :: rest) = (false, c :: rest) := by
    unfold splitSign
    split
    · rename_i same
      obtain ⟨rfl, _⟩ := List.cons.inj same
      contradiction
    · rename_i same
      obtain ⟨rfl, _⟩ := List.cons.inj same
      contradiction
    · rfl
  have marks : ∀ d ∈ c :: rest, isDigitOrMark d = true := by
    intro d there
    rw [isDigitOrMark, all d there, Bool.true_or]
  have kept : (c :: rest).filter (· != '_') = c :: rest := by
    apply List.filter_eq_self.mpr
    intro d there
    have plain : d ≠ '_' := ne_of_isDigit (all d there) (by decide)
    simpa using plain
  have ungrouped : ungroup (c :: rest) = Option.some (c :: rest) := by
    rw [ungroup, groupedFrom_digits all, if_pos rfl, kept]
  have begun : (c :: rest).dropWhile isNumberBlank = c :: rest := by
    rw [List.dropWhile_cons, isNumberBlank_of_isDigit first]
    rfl
  have taken : (c :: rest).takeWhile isDigitOrMark = c :: rest :=
    List.takeWhile_eq_self_iff.mpr marks
  have nothing : (c :: rest).dropWhile isDigitOrMark = [] := List.dropWhile_eq_nil_iff.mpr marks
  unfold readInteger
  simp only [begun, unsigned, taken, ungrouped, nothing, List.all_nil, if_true]
  rfl

end GnssMonitor.Text
