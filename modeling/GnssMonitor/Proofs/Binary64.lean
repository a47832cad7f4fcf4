import Mathlib.Data.Rat.Floor
import Mathlib.Algebra.Order.Field.Power
import Mathlib.Tactic.Linarith
import Mathlib.Tactic.Positivity
import GnssMonitor.Binary64

/-! The rational that a number stands for. Order and integer part of finite numbers are those of
their values. And the integers that are too large for a number. -/

namespace GnssMonitor.Binary64

/-- The value of a finite number; the others have none and are put at zero. -/
def value : Binary64 → ℚ
  | finite n m e => signed n m * 2 ^ e
  | nan | infinite _ => 0

@[simp] theorem value_zero : zero.value = 0 := by
  simp [zero, signedZero, value, signed]

/-- A significand shifted to a lower exponent. -/
theorem signed_shift (n : Bool) (m : Nat) {e low : Int} (le : low ≤ e) :
    (signed n (m <<< (e - low).toNat) : ℚ) * 2 ^ low = (finite n m e).value := by
  have power : (2 : ℚ) ^ (e - low).toNat * 2 ^ low = 2 ^ e := by
    rw [← zpow_natCast, ← zpow_add₀ two_ne_zero, Int.toNat_of_nonneg (by omega)]
    congr 1
    omega
  have shifted : (signed n (m <<< (e - low).toNat) : ℚ) = signed n m * 2 ^ (e - low).toNat := by
    cases n <;> simp [signed, Nat.shiftLeft_eq]
  rw [shifted, mul_assoc, power, value]

theorem lt_iff {x y : Binary64} (hx : x.isFinite) (hy : y.isFinite) :
    x.lt y = true ↔ x.value < y.value := by
  cases x <;> cases y <;> simp only [isFinite, Bool.false_eq_true] at hx hy
  rename_i n m e n' m' e'
  rw [← signed_shift n m (min_le_left e e'), ← signed_shift n' m' (min_le_right e e'),
    mul_lt_mul_iff_left₀ (by positivity)]
  simp [lt]

theorem le_iff {x y : Binary64} (hx : x.isFinite) (hy : y.isFinite) :
    x.le y = true ↔ x.value ≤ y.value := by
  have numbers : (x == nan) = false ∧ (y == nan) = false := by
    cases x <;> cases y <;> simp_all [isFinite]
  rw [← not_lt, ← lt_iff hy hx]
  simp [le, numbers]

theorem scale_value (num den : Nat) (e : Int) :
    ((scale 2 num den e).1 : ℚ) / (scale 2 num den e).2 = num / den * 2 ^ e := by
  unfold scale
  by_cases whole : 0 ≤ e
  · obtain ⟨k, rfl⟩ := Int.eq_ofNat_of_zero_le whole
    simp [mul_div_right_comm]
  · obtain ⟨k, hk⟩ := Int.eq_ofNat_of_zero_le (show 0 ≤ -e by omega)
    obtain rfl : e = -k := by omega
    have below : k ≠ 0 := by omega
    simp [below, div_eq_mul_inv, mul_comm, mul_assoc]

theorem scale_ratio (m : Nat) (e : Int) :
    ((scale 2 m 1 e).1 : ℚ) / (scale 2 m 1 e).2 = m * 2 ^ e := by
  rw [scale_value, Nat.cast_one, div_one]

/-- The integer part of a number that is not below zero is the greatest integer up to it. -/
theorem trunc_of_nonneg {x : Binary64} (hx : x.isFinite) (nonneg : 0 ≤ x.value) :
    x.trunc = .ok ⌊x.value⌋ := by
  cases x <;> simp only [isFinite, Bool.false_eq_true] at hx
  rename_i n m e
  have floor : ⌊(m * 2 ^ e : ℚ)⌋ = ((scale 2 m 1 e).1 / (scale 2 m 1 e).2 : Nat) := by
    rw [← scale_ratio]
    exact_mod_cast Rat.floor_natCast_div_natCast _ _
  cases n with
  | false => simp [trunc, value, signed, floor]
  | true =>
    have least : (m * 2 ^ e : ℚ) ≤ 0 := by simpa [value, signed] using nonneg
    have none : (m * 2 ^ e : ℚ) = 0 := le_antisymm least (by positivity)
    have nothing : (scale 2 m 1 e).1 / (scale 2 m 1 e).2 = 0 := by
      rw [none, Int.floor_zero] at floor
      exact_mod_cast floor.symm
    simp [trunc, value, signed, nothing, none]

/-- No integer is nearer to the number, and of two that are as near it is the even one. -/
structure IsNearest (x : ℚ) (n : ℤ) : Prop where
  near : |x - n| ≤ 1 / 2
  even : |x - n| = 1 / 2 → Even n

theorem IsNearest.neg {x : ℚ} {n : ℤ} (h : IsNearest x n) : IsNearest (-x) (-n) := by
  have same : |-x - ((-n : ℤ) : ℚ)| = |x - n| := by
    rw [← abs_neg]
    congr 1
    push_cast
    ring
  constructor
  · rw [same]
    exact h.near
  · intro half
    rw [same] at half
    exact (h.even half).neg

theorem div_eq_div_add_mod (n : Nat) {d : Nat} (pos : 0 < d) :
    (n : ℚ) / d = (n / d : Nat) + ((n % d : Nat) : ℚ) / d := by
  have positive : (0 : ℚ) < d := by exact_mod_cast pos
  rw [div_eq_iff positive.ne', add_mul, div_mul_cancel₀ _ positive.ne']
  exact_mod_cast (Nat.div_add_mod' n d).symm

/-- The rounded quotient is the nearest integer. -/
theorem roundHalfEven_isNearest (n : Nat) {d : Nat} (pos : 0 < d) :
    IsNearest ((n : ℚ) / d) (roundHalfEven n d) := by
  have positive : (0 : ℚ) < d := by exact_mod_cast pos
  have left : n % d < d := Nat.mod_lt _ pos
  rw [div_eq_div_add_mod n pos]
  unfold roundHalfEven
  generalize n / d = q
  generalize n % d = r at left
  have least : (0 : ℚ) ≤ r / d := by positivity
  have most : (r : ℚ) / d < 1 := by
    rw [div_lt_one positive]
    exact_mod_cast left
  rcases lt_trichotomy (2 * r) d with down | tie | up
  · have part : (r : ℚ) / d < 1 / 2 := by
      rw [div_lt_div_iff₀ positive two_pos, one_mul, mul_comm]
      exact_mod_cast down
    have off : |(q + r / d : ℚ) - (q : ℤ)| < 1 / 2 := by
      rw [abs_lt]
      constructor <;> push_cast <;> linarith
    rw [if_pos down]
    exact ⟨off.le, fun half => absurd half off.ne⟩
  · have part : (r : ℚ) / d = 1 / 2 := by
      rw [div_eq_div_iff positive.ne' two_ne_zero, one_mul, mul_comm]
      exact_mod_cast tie
    -- Both neighbours are as near, and the lower one is taken exactly when it is even.
    rw [if_neg (by omega), if_neg (by omega), part]
    constructor
    · rw [abs_le]
      rcases Nat.mod_two_eq_zero_or_one q with even | odd
      · rw [even]
        constructor <;> push_cast <;> linarith
      · rw [odd]
        constructor <;> push_cast <;> linarith
    · intro
      rw [Int.even_coe_nat, Nat.even_iff]
      omega
  · have part : 1 / 2 < (r : ℚ) / d := by
      rw [div_lt_div_iff₀ two_pos positive, one_mul, mul_comm]
      exact_mod_cast up
    have off : |(q + r / d : ℚ) - ((q + 1 : Nat) : ℤ)| < 1 / 2 := by
      rw [abs_lt]
      constructor <;> push_cast <;> linarith
    rw [if_neg (by omega), if_pos up]
    exact ⟨off.le, fun half => absurd half off.ne⟩

theorem scale_den_pos (num : Nat) {den : Nat} (pos : 0 < den) (e : Int) :
    0 < (scale 2 num den e).2 := by
  unfold scale
  split
  · exact pos
  · exact Nat.mul_pos pos (Nat.pow_pos Nat.two_pos)

/-- What a finite number is rounded to is the nearest integer. -/
theorem round_isNearest {x : Binary64} {n : Int} (rounded : x.round = .ok n) :
    IsNearest x.value n := by
  cases x with
  | nan => contradiction
  | infinite negative => contradiction
  | finite negative m e =>
    have nearest := roundHalfEven_isNearest (scale 2 m 1 e).1 (scale_den_pos m Nat.one_pos e)
    rw [scale_ratio] at nearest
    unfold round at rounded
    simp only [Except.ok.injEq] at rounded
    subst rounded
    generalize roundHalfEven _ _ = n at nearest ⊢
    cases negative with
    | false => simpa [value, signed] using nearest
    | true => simpa [value, signed] using nearest.neg

/-- Integers of this magnitude and beyond round to `2 ^ 1024` at least. -/
def integerBound : Nat := (2 ^ 54 - 1) * 2 ^ 970

/-- How the greatest exponent and this bound go together. Only this matters, not how large they
are. -/
theorem exists_integerBound : ∃ k : Nat, k ≠ 0 ∧ greatestExponent = k + 1 ∧
    integerBound = (2 ^ 54 - 1) * 2 ^ k := ⟨970, by decide, rfl, rfl⟩

theorem scale_down {k : Nat} (n : Nat) {e : Int} (down : e = -k) : scale 2 n 1 e = (n, 2 ^ k) := by
  subst down
  unfold scale
  cases k with
  | zero => simp
  | succ k =>
    have below : ¬ (0 : Int) ≤ -((k + 1 : Nat) : Int) := by omega
    rw [if_neg below]
    simp

theorem exponentOf_one {n : Nat} (pos : n ≠ 0) : exponentOf n 1 = n.log2 := by
  have reached : 2 ^ n.log2 ≤ n := Nat.log2_self_le pos
  have one : Nat.log2 1 = 0 := by decide
  unfold exponentOf settleExponent
  rw [one, scale_down n (k := n.log2) (by simp)]
  simp [reached]

/-- Below `bound` steps it takes the upper half of the last one to round up to it. -/
theorem roundHalfEven_eq_bound {n half bound : Nat} (pos : 0 < half) (even : bound % 2 = 0)
    (below : n < bound * (2 * half)) :
    roundHalfEven n (2 * half) = bound ↔ (2 * bound - 1) * half ≤ n := by
  have steps : 2 * half * (n / (2 * half)) + n % (2 * half) = n := Nat.div_add_mod _ _
  have left : n % (2 * half) < 2 * half := Nat.mod_lt _ (by omega)
  have few : n / (2 * half) < bound := Nat.div_lt_of_lt_mul (by rwa [Nat.mul_comm] at below)
  simp only [roundHalfEven]
  generalize n / (2 * half) = q at steps few
  generalize n % (2 * half) = r at steps left
  by_cases last : q + 1 = bound
  · subst last
    have whole : (2 * (q + 1) - 1) * half = 2 * half * q + half := by
      rw [show 2 * (q + 1) - 1 = 2 * q + 1 by omega]
      ring
    rw [whole]
    split_ifs <;> omega
  · have short : 2 * half * (q + 1) + 2 * half ≤ 2 * half * bound := by
      rw [← Nat.mul_succ]
      exact Nat.mul_le_mul_left _ (by omega)
    have edge : (2 * bound - 1) * half + half = 2 * half * bound := by
      rw [Nat.sub_mul, Nat.one_mul, Nat.sub_add_cancel]
      · ring
      · exact Nat.le_mul_of_pos_left half (by omega)
    rw [Nat.mul_succ] at short
    constructor
    · split_ifs <;> omega
    · omega

theorem integerBound_pos : 0 < integerBound := by
  unfold integerBound
  positivity

/-- An integer is infinite when its exponent is too great, or becomes so by rounding up. -/
theorem ofRatio_infinite_iff {n : Nat} {e : Int} (pos : n ≠ 0) (exponent : e = n.log2 - 52)
    (negative : Bool) : (∃ b, ofRatio negative n 1 = infinite b) ↔
      greatestExponent < if roundHalfEven (scale 2 n 1 (-e)).1 (scale 2 n 1 (-e)).2 =
        2 * leastNormal then e + 1 else e := by
  have greatest : max ((n.log2 : Int) - 52) leastExponent = e := by
    unfold leastExponent
    omega
  unfold ofRatio
  rw [if_neg pos, exponentOf_one pos, greatest]
  simp only
  split_ifs <;> simp_all

/-- The integers that round to a number beyond the range. -/
theorem ofInt_infinite_iff {i : Int} :
    (∃ b, ofInt i = infinite b) ↔ integerBound ≤ i.natAbs := by
  have whole : ofInt i = ofRatio (decide (i < 0)) i.natAbs 1 := by simp [ofInt, ofDyadic, scale]
  rw [whole]
  generalize i.natAbs = n
  by_cases pos : n = 0
  · subst pos
    have least := integerBound_pos
    simp [ofRatio, signedZero, least.ne']
  obtain ⟨k, -, greatest, bound⟩ := exists_integerBound
  have bounds : 2 ^ (k + 53) ≤ integerBound ∧ integerBound ≤ 2 ^ (k + 54) := by
    rw [bound, pow_add, pow_add, Nat.mul_comm (2 ^ k), Nat.mul_comm (2 ^ k)]
    constructor <;> exact Nat.mul_le_mul_right _ (by norm_num)
  rw [ofRatio_infinite_iff pos rfl, greatest]
  rcases lt_trichotomy n.log2 (k + 53) with small | middle | large
  · have short : n < 2 ^ (k + 53) := (Nat.log2_lt pos).mp small
    have beneath : ¬ integerBound ≤ n := not_le.mpr (short.trans_le bounds.1)
    simp only [beneath, iff_false]
    split <;> omega
  · have step : scale 2 n 1 (-((n.log2 : Int) - 52)) = (n, 2 * 2 ^ k) := by
      rw [scale_down n (k := k + 1) (by omega), ← pow_succ']
    have top : n < 2 * leastNormal * (2 * 2 ^ k) := by
      have below : n < 2 ^ (n.log2 + 1) := Nat.lt_log2_self
      rw [show 2 * leastNormal = 2 ^ 53 by rfl, ← pow_succ', ← pow_add, Nat.add_comm]
      rwa [middle, Nat.add_right_comm] at below
    have rounds : roundHalfEven n (2 * 2 ^ k) = 2 * leastNormal ↔ integerBound ≤ n := by
      rw [bound, ← show 2 * (2 * leastNormal) - 1 = 2 ^ 54 - 1 by rfl]
      exact roundHalfEven_eq_bound (by positivity) rfl top
    rw [step, middle, ← rounds]
    push_cast
    split <;> simp_all <;> omega
  · have long : 2 ^ (k + 54) ≤ n := (Nat.le_log2 pos).mp large
    have beyond : integerBound ≤ n := bounds.2.trans long
    simp only [beyond, iff_true]
    split <;> omega

theorem ofInt?_eq_none_iff {i : Int} : ofInt? i = none ↔ integerBound ≤ i.natAbs := by
  rw [← ofInt_infinite_iff]
  unfold ofInt?
  cases ofInt i <;> simp

end GnssMonitor.Binary64
