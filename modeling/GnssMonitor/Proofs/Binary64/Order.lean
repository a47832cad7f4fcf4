import Mathlib.Order.WithBot
import GnssMonitor.Proofs.Binary64

/-! The order of numbers with the infinite ones. What is no number is level with nothing. -/

namespace GnssMonitor.Binary64

/-- Where a number stands among all of them. -/
def rank : Binary64 → WithBot (WithTop ℚ)
  | infinite true => ⊥
  | infinite false => ((⊤ : WithTop ℚ) : WithBot (WithTop ℚ))
  | x => ((x.value : WithTop ℚ) : WithBot (WithTop ℚ))

theorem lt_iff_rank {x y : Binary64} :
    x.lt y = true ↔ x ≠ nan ∧ y ≠ nan ∧ x.rank < y.rank := by
  cases x with
  | nan => simp [lt]
  | infinite a =>
    cases y with
    | nan => simp [lt]
    | infinite b => cases a <;> cases b <;> simp [lt, rank]
    | finite n m e => cases a <;> simp [lt, rank]
  | finite n m e =>
    cases y with
    | nan => simp [lt]
    | infinite b =>
      have beneath : (finite n m e).rank < (infinite false).rank :=
        WithBot.coe_lt_coe.mpr (WithTop.coe_lt_top _)
      cases b with
      | false => simp [lt, beneath]
      | true => simp [lt, rank]
    | finite n' m' e' => simp [lt_iff (x := finite n m e) (y := finite n' m' e') rfl rfl, rank]

theorem le_iff_rank {x y : Binary64} :
    x.le y = true ↔ x ≠ nan ∧ y ≠ nan ∧ x.rank ≤ y.rank := by
  simp only [le, Bool.and_eq_true, Bool.not_eq_true', ← Bool.not_eq_true, lt_iff_rank,
    beq_iff_eq, not_and, not_lt, and_assoc]
  refine and_congr_right fun hx => and_congr_right fun hy => ?_
  simp [hx, hy]

section

variable {x y z : Binary64}

theorem lt_trans (below : x.lt y = true) (above : y.lt z = true) : x.lt z = true := by
  rw [lt_iff_rank] at below above ⊢
  exact ⟨below.1, above.2.1, below.2.2.trans above.2.2⟩

/-- What is not above a number is not as great as any that is. -/
theorem le_of_lt_false (below : x.lt y = true) (level : x.lt z = false) : y.le z = false := by
  rw [← Bool.not_eq_true, lt_iff_rank] at level
  rw [← Bool.not_eq_true, le_iff_rank]
  rintro ⟨-, number, reaches⟩
  rw [lt_iff_rank] at below
  exact level ⟨below.1, number, below.2.2.trans_le reaches⟩

theorem lt_of_le_false (less : x.le y = false) : x.lt y = false := by
  rw [← Bool.not_eq_true, le_iff_rank] at less
  rw [← Bool.not_eq_true, lt_iff_rank]
  exact fun above => less ⟨above.1, above.2.1, above.2.2.le⟩

theorem lt_self (x : Binary64) : x.lt x = false := by
  rw [← Bool.not_eq_true, lt_iff_rank]
  exact fun less => lt_irrefl _ less.2.2

end

end GnssMonitor.Binary64
