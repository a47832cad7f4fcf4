import Mathlib.Algebra.Order.Ring.Abs
import GnssMonitor.Proofs.Binary64

/-! Rounding: the number that stands for a ratio is the nearest one there is, and so are sums and
products those of the exact ones. A result that is a number itself is exact. -/

namespace GnssMonitor.Binary64

/-- The finite numbers that 64 bits hold. -/
def Fits : Binary64 → Prop
  | finite _ m e => m < 2 * leastNormal ∧ leastExponent ≤ e ∧ e ≤ greatestExponent
  | nan | infinite _ => False

instance : DecidablePred Fits
  | finite _ m e =>
    inferInstanceAs (Decidable (m < 2 * leastNormal ∧ leastExponent ≤ e ∧ e ≤ greatestExponent))
  | nan | infinite _ => inferInstanceAs (Decidable False)

/-- No number that 64 bits hold is nearer. -/
structure IsClosest (q : ℚ) (x : Binary64) : Prop where
  fits : x.Fits
  near : ∀ y : Binary64, y.Fits → |q - x.value| ≤ |q - y.value|

theorem Fits.isFinite {x : Binary64} (fits : x.Fits) : x.isFinite = true := by
  cases x with
  | nan => exact fits.elim
  | infinite negative => exact fits.elim
  | finite negative m e => rfl

theorem IsNearest.near_all {x : ℚ} {n : ℤ} (nearest : IsNearest x n) (j : ℤ) :
    |x - n| ≤ |x - j| := by
  have half := nearest.near
  by_cases same : j = n
  · rw [same]
  · -- another integer is a whole step away
    have step : (1 : ℚ) ≤ |(n : ℚ) - j| := by
      have apart : 1 ≤ |n - j| := Int.one_le_abs (sub_ne_zero.mpr (Ne.symm same))
      exact_mod_cast apart
    have across : |(n : ℚ) - j| ≤ |x - n| + |x - j| := by
      rw [← abs_neg (x - n)]
      calc |(n : ℚ) - j| = |-(x - n) + (x - j)| := by ring_nf
        _ ≤ |-(x - n)| + |x - j| := abs_add_le _ _
    linarith

section Order

variable {q r : ℚ} {x y : Binary64}

theorem IsClosest.exact (closest : IsClosest q x) (fits : y.Fits) (same : y.value = q) :
    x.value = q := by
  have near := closest.near y fits
  rw [same, sub_self, abs_zero] at near
  exact (sub_eq_zero.mp (abs_nonpos_iff.mp near)).symm

/-- A number that is there and not above is not above the nearest one either. -/
theorem IsClosest.reaches (closest : IsClosest q x) (fits : y.Fits) (below : y.value ≤ q) :
    y.value ≤ x.value := by
  by_contra less
  rw [not_le] at less
  have near := closest.near y fits
  rw [abs_of_nonneg (sub_nonneg.mpr below), abs_of_nonneg (by linarith)] at near
  linarith

/-- What is greater has no lesser nearest number. -/
theorem IsClosest.mono (closest : IsClosest q x) (closest' : IsClosest r y) (less : q < r) :
    x.value ≤ y.value := by
  by_contra crossed
  rw [not_le] at crossed
  have near := sq_le_sq.mpr (closest.near y closest'.fits)
  have near' := sq_le_sq.mpr (closest'.near x closest.fits)
  nlinarith [mul_pos (sub_pos.mpr less) (sub_pos.mpr crossed)]

end Order

section Sign

variable {q : ℚ} {x : Binary64}

@[simp] theorem value_neg (x : Binary64) : (-x).value = -x.value := by
  change (neg x).value = -x.value
  cases x with
  | nan => simp [neg, value]
  | infinite negative => simp [neg, value]
  | finite negative m e => cases negative <;> simp [neg, value, signed]

theorem Fits.neg (fits : x.Fits) : (-x).Fits := by
  change (Binary64.neg x).Fits
  cases x <;> exact fits

/-- The numbers are as close to each other on both sides of zero. -/
theorem IsClosest.neg (closest : IsClosest q x) : IsClosest (-q) (-x) := by
  refine ⟨closest.fits.neg, fun y fits => ?_⟩
  have near := closest.near (-y) fits.neg
  rw [value_neg] at near ⊢
  rw [← abs_neg, ← abs_neg (-q - y.value)]
  ring_nf at near ⊢
  exact near

end Sign

theorem roundHalfEven_le {n d b : Nat} (below : n < b * d) : roundHalfEven n d ≤ b := by
  have few : n / d < b := Nat.div_lt_of_lt_mul (by rwa [Nat.mul_comm] at below)
  unfold roundHalfEven
  simp only
  split_ifs <;> omega

section Ratio

variable {num den : Nat}

theorem log2_bounds {n : Nat} (some : n ≠ 0) :
    (2 : ℚ) ^ (n.log2 : ℤ) ≤ n ∧ (n : ℚ) < 2 ^ ((n.log2 : ℤ) + 1) := by
  have low : 2 ^ n.log2 ≤ n := Nat.log2_self_le some
  have high : n < 2 ^ (n.log2 + 1) := Nat.lt_log2_self
  rw [zpow_natCast, ← Nat.cast_succ, zpow_natCast]
  exact ⟨by exact_mod_cast low, by exact_mod_cast high⟩

/-- The lengths of numerator and denominator leave two exponents to choose from. -/
theorem ratio_bounds (some : num ≠ 0) (pos : 0 < den) :
    (2 : ℚ) ^ ((num.log2 : ℤ) - den.log2 - 1) ≤ num / den ∧
      (num / den : ℚ) < 2 ^ ((num.log2 : ℤ) - den.log2 + 1) := by
  have two : (2 : ℚ) ≠ 0 := two_ne_zero
  have positive : (0 : ℚ) < den := by exact_mod_cast pos
  obtain ⟨least, most⟩ := log2_bounds some
  obtain ⟨least', most'⟩ := log2_bounds pos.ne'
  generalize (num.log2 : ℤ) = a at least most ⊢
  generalize (den.log2 : ℤ) = b at least' most' ⊢
  constructor
  · rw [le_div_iff₀ positive]
    calc (2 : ℚ) ^ (a - b - 1) * den ≤ 2 ^ (a - b - 1) * 2 ^ (b + 1) :=
          mul_le_mul_of_nonneg_left most'.le (by positivity)
      _ = 2 ^ a := by
          rw [← zpow_add₀ two]
          congr 1
          ring
      _ ≤ num := least
  · rw [div_lt_iff₀ positive]
    calc (num : ℚ) < 2 ^ (a + 1) := most
      _ = 2 ^ (a - b + 1) * 2 ^ b := by
          rw [← zpow_add₀ two]
          congr 1
          ring
      _ ≤ 2 ^ (a - b + 1) * den := mul_le_mul_of_nonneg_left least' (by positivity)

/-- The test that settles an exponent. -/
theorem scale_reaches (num : Nat) (pos : 0 < den) (e : Int) :
    (scale 2 num den (-e)).2 ≤ (scale 2 num den (-e)).1 ↔ (2 : ℚ) ^ e ≤ num / den := by
  have scaled : (0 : ℚ) < (scale 2 num den (-e)).2 := by
    exact_mod_cast scale_den_pos num pos (-e)
  rw [← Nat.cast_le (α := ℚ), ← one_le_div scaled, scale_value, zpow_neg, ← div_eq_mul_inv,
    one_le_div (by positivity)]

theorem exponentOf_bounds (some : num ≠ 0) (pos : 0 < den) :
    (2 : ℚ) ^ exponentOf num den ≤ num / den ∧
      (num / den : ℚ) < 2 ^ (exponentOf num den + 1) := by
  obtain ⟨low, high⟩ := ratio_bounds some pos
  unfold exponentOf settleExponent
  dsimp only
  split <;> rename_i reached <;> rw [scale_reaches num pos] at reached
  · exact ⟨reached, high⟩
  · rw [sub_add_cancel]
    exact ⟨low, not_le.mp reached⟩

/-- The exponent of the last place of a ratio. -/
def place (num den : Nat) : Int := max (exponentOf num den - 52) leastExponent

theorem lt_place (some : num ≠ 0) (pos : 0 < den) :
    (num / den : ℚ) < 2 ^ 53 * 2 ^ place num den := by
  have fine : exponentOf num den + 1 ≤ 53 + place num den := by
    have := le_max_left (exponentOf num den - 52) leastExponent
    simp only [place]
    omega
  calc (num / den : ℚ) < 2 ^ (exponentOf num den + 1) := (exponentOf_bounds some pos).2
    _ ≤ 2 ^ (53 + place num den) := zpow_le_zpow_right₀ one_le_two fine
    _ = 2 ^ 53 * 2 ^ place num den := by
        rw [zpow_add₀ two_ne_zero]
        norm_cast

/-- Only where the last place is that of the least numbers may there be fewer digits. -/
theorem place_le (some : num ≠ 0) (pos : 0 < den) (normal : leastExponent < place num den) :
    (2 : ℚ) ^ 52 * 2 ^ place num den ≤ num / den := by
  have coarse : 52 + place num den = exponentOf num den := by
    simp only [place] at normal ⊢
    omega
  calc (2 : ℚ) ^ 52 * 2 ^ place num den = 2 ^ exponentOf num den := by
        rw [← coarse, zpow_add₀ two_ne_zero]
        norm_cast
    _ ≤ num / den := (exponentOf_bounds some pos).1

/-- The significand of a ratio, which may come out one too large for its last place. -/
def digitsAt (num den : Nat) : Nat :=
  roundHalfEven (scale 2 num den (-place num den)).1 (scale 2 num den (-place num den)).2

theorem digitsAt_isNearest (num : Nat) (pos : 0 < den) :
    IsNearest (num / den * 2 ^ (-place num den)) (digitsAt num den) := by
  have nearest := roundHalfEven_isNearest (scale 2 num den (-place num den)).1
    (scale_den_pos num pos (-place num den))
  rwa [scale_value] at nearest

theorem digitsAt_le (some : num ≠ 0) (pos : 0 < den) : digitsAt num den ≤ 2 * leastNormal := by
  apply roundHalfEven_le
  have positive : (0 : ℚ) < (scale 2 num den (-place num den)).2 := by
    exact_mod_cast scale_den_pos num pos (-place num den)
  have below : ((scale 2 num den (-place num den)).1 : ℚ) /
      (scale 2 num den (-place num den)).2 < 2 ^ 53 := by
    rw [scale_value, zpow_neg, ← div_eq_mul_inv, div_lt_iff₀ (by positivity)]
    exact lt_place some pos
  rw [div_lt_iff₀ positive] at below
  exact_mod_cast below

theorem ofRatio_some (some : num ≠ 0) (negative : Bool) : ofRatio negative num den =
    if digitsAt num den = 2 * leastNormal then
      if greatestExponent < place num den + 1 then infinite negative
      else finite negative leastNormal (place num den + 1)
    else if greatestExponent < place num den then infinite negative
      else finite negative (digitsAt num den) (place num den) := by
  unfold ofRatio
  rw [if_neg some]
  by_cases top : digitsAt num den = 2 * leastNormal
  · rw [if_pos top]
    unfold digitsAt place at top
    simp only [if_pos top]
    rfl
  · rw [if_neg top]
    unfold digitsAt place at top
    simp only [if_neg top]
    rfl

/-- The bound of the range is half a step below what has no place in it. -/
theorem exists_integerBound_eq : ∃ k : Nat, greatestExponent = k + 1 ∧
    (integerBound : ℚ) = (2 ^ 53 - 1 / 2) * 2 ^ (k + 1) := by
  obtain ⟨k, -, greatest, bound⟩ := exists_integerBound
  refine ⟨k, greatest, ?_⟩
  rw [bound, pow_succ]
  push_cast
  ring

/-- A ratio within the range has its last place there. -/
theorem place_le_greatest (some : num ≠ 0) (pos : 0 < den)
    (small : (num / den : ℚ) < integerBound) : place num den ≤ greatestExponent := by
  obtain ⟨k, greatest, bound⟩ := exists_integerBound_eq
  have below : (2 : ℚ) ^ exponentOf num den < 2 ^ ((k + 54 : Nat) : ℤ) :=
    calc (2 : ℚ) ^ exponentOf num den ≤ num / den := (exponentOf_bounds some pos).1
      _ < (2 ^ 53 - 1 / 2) * 2 ^ (k + 1) := bound ▸ small
      _ ≤ 2 ^ 53 * 2 ^ (k + 1) := mul_le_mul_of_nonneg_right (by norm_num) (by positivity)
      _ = 2 ^ ((k + 54 : Nat) : ℤ) := by
          rw [zpow_natCast, ← pow_add]
          congr 1
          omega
  have exponent := (zpow_lt_zpow_iff_right₀ one_lt_two).mp below
  rw [place, greatest]
  exact max_le (by omega) (by simp only [leastExponent]; omega)

/-- Nor is it rounded beyond the range. -/
theorem place_lt_greatest (some : num ≠ 0) (pos : 0 < den)
    (small : (num / den : ℚ) < integerBound) (top : digitsAt num den = 2 * leastNormal) :
    place num den < greatestExponent := by
  refine lt_of_le_of_ne (place_le_greatest some pos small) fun last => ?_
  obtain ⟨k, greatest, bound⟩ := exists_integerBound_eq
  have near := (abs_le.mp (digitsAt_isNearest num pos).near).1
  have whole : (((2 * leastNormal : Nat) : ℤ) : ℚ) = 2 ^ 53 := by norm_num [leastNormal]
  rw [top, whole, last, greatest, zpow_neg, ← div_eq_mul_inv, ← Nat.cast_succ,
    zpow_natCast, Nat.succ_eq_add_one] at near
  rw [bound] at small
  have below : (num / den : ℚ) / 2 ^ (k + 1) < 2 ^ 53 - 1 / 2 :=
    (div_lt_iff₀ (by positivity)).mpr small
  linarith

/-- A ratio within the range is rounded in its last place. -/
theorem ofRatio_rounded (some : num ≠ 0) (pos : 0 < den)
    (small : (num / den : ℚ) < integerBound) : (ofRatio false num den).Fits ∧
      (ofRatio false num den).value = (digitsAt num den : ℤ) * 2 ^ place num den := by
  have least : leastExponent ≤ place num den := le_max_right _ _
  have within := place_le_greatest some pos small
  rw [ofRatio_some some]
  by_cases top : digitsAt num den = 2 * leastNormal
  · have carried : leastNormal < 2 * leastNormal := by decide
    have below := place_lt_greatest some pos small top
    rw [if_pos top, if_neg (by omega), top]
    refine ⟨⟨carried, by omega, by omega⟩, ?_⟩
    rw [value, signed, if_neg Bool.false_ne_true, zpow_add_one₀ two_ne_zero]
    push_cast
    ring
  · have few := digitsAt_le some pos
    rw [if_neg top, if_neg (by omega)]
    exact ⟨⟨by omega, least, within⟩, by simp [value, signed]⟩

/-- Every whole number up to here is there. -/
def wholeBound : Int := 0x20000000000000

theorem wholeBound_lt : wholeBound < integerBound := by
  obtain ⟨k, -, -, bound⟩ := exists_integerBound
  have least : 2 ^ 54 - 1 ≤ integerBound := by
    rw [bound]
    exact Nat.le_mul_of_pos_right _ (Nat.two_pow_pos k)
  simp only [wholeBound]
  omega

theorem lt_integerBound {q : ℚ} (small : q ≤ wholeBound) : q < integerBound := by
  have bound : (wholeBound : ℚ) < integerBound := by exact_mod_cast wholeBound_lt
  exact small.trans_lt bound

theorem signed_lt (negative : Bool) {m : Nat} (short : m < 2 * leastNormal) :
    signed negative m < wholeBound := by
  simp only [leastNormal] at short
  cases negative <;> simp only [signed, wholeBound, if_true, if_neg Bool.false_ne_true] <;> omega

/-- What is below the last place of a ratio is not above the least one with this place. -/
theorem Fits.grid {y : Binary64} (fits : y.Fits) (place : Int) :
    (∃ j : ℤ, y.value = j * 2 ^ place) ∨ leastExponent < place ∧ y.value ≤ 2 ^ 52 * 2 ^ place := by
  cases y with
  | nan => exact fits.elim
  | infinite negative => exact fits.elim
  | finite negative m e =>
    obtain ⟨short, least, -⟩ := fits
    by_cases coarse : place ≤ e
    · refine .inl ⟨signed negative m * 2 ^ (e - place).toNat, ?_⟩
      have steps : (2 : ℚ) ^ (e - place).toNat * 2 ^ place = 2 ^ e := by
        rw [← zpow_natCast, ← zpow_add₀ two_ne_zero, Int.toNat_of_nonneg (by omega)]
        congr 1
        omega
      push_cast
      rw [value, mul_assoc, steps]
    · have size : (signed negative m : ℚ) ≤ 2 ^ 53 := by
        exact_mod_cast (signed_lt negative short).le
      have finer : (2 : ℚ) ^ e ≤ 2 ^ (place - 1) := zpow_le_zpow_right₀ one_le_two (by omega)
      refine .inr ⟨by omega, ?_⟩
      calc (finite negative m e).value ≤ 2 ^ 53 * 2 ^ e :=
            mul_le_mul_of_nonneg_right size (by positivity)
        _ ≤ 2 ^ 53 * 2 ^ (place - 1) := mul_le_mul_of_nonneg_left finer (by positivity)
        _ = 2 ^ 52 * 2 ^ place := by
            rw [zpow_sub_one₀ two_ne_zero]
            ring

theorem isClosest_zero (negative : Bool) : IsClosest 0 (signedZero negative) := by
  have zero : (signedZero negative).value = 0 := by simp [signedZero, value, signed]
  refine ⟨by cases negative <;> decide, fun y _ => ?_⟩
  rw [zero, sub_self, abs_zero]
  exact abs_nonneg _

/-- **A ratio within the range becomes the nearest number there is.** -/
theorem ofRatio_isClosest_of_pos (num : Nat) (pos : 0 < den)
    (small : (num / den : ℚ) < integerBound) : IsClosest (num / den) (ofRatio false num den) := by
  by_cases some : num = 0
  · subst some
    simpa [ofRatio] using isClosest_zero false
  obtain ⟨fits, rounded⟩ := ofRatio_rounded some pos small
  have nearest := digitsAt_isNearest num pos
  have positive : (0 : ℚ) < 2 ^ place num den := by positivity
  have scaled (k : ℤ) : |(num / den : ℚ) - k * 2 ^ place num den| =
      |num / den * 2 ^ (-place num den) - (k : ℚ)| * 2 ^ place num den := by
    rw [← abs_of_pos positive, ← abs_mul, abs_of_pos positive, sub_mul, zpow_neg, mul_assoc,
      inv_mul_cancel₀ positive.ne', mul_one]
  have grid (k : ℤ) : |(num / den : ℚ) - (ofRatio false num den).value| ≤
      |(num / den : ℚ) - k * 2 ^ place num den| := by
    rw [rounded, scaled, scaled]
    exact mul_le_mul_of_nonneg_right (nearest.near_all k) positive.le
  refine ⟨fits, fun y fits' => ?_⟩
  obtain ⟨k, same⟩ | ⟨normal, beneath⟩ := fits'.grid (place num den)
  · rw [same]
    exact grid k
  · have least := grid (2 ^ (52 : Nat))
    have low := place_le some pos normal
    rw [Int.cast_pow, Int.cast_ofNat] at least
    rw [abs_of_nonneg (sub_nonneg.mpr low)] at least
    rw [abs_of_nonneg (sub_nonneg.mpr (beneath.trans low))]
    linarith

theorem ofRatio_neg (num den : Nat) : ofRatio true num den = -ofRatio false num den := by
  change _ = neg (ofRatio false num den)
  by_cases some : num = 0
  · simp [ofRatio, some, signedZero, neg]
  · rw [ofRatio_some some, ofRatio_some some]
    split_ifs <;> rfl

theorem ofRatio_isClosest (negative : Bool) (num : Nat) (pos : 0 < den)
    (small : (num / den : ℚ) < integerBound) :
    IsClosest (signed negative num / den) (ofRatio negative num den) := by
  have closest := ofRatio_isClosest_of_pos num pos small
  cases negative with
  | false => simpa [signed] using closest
  | true =>
    rw [ofRatio_neg]
    simpa [signed, neg_div] using closest.neg

end Ratio

section Arithmetic

variable {x y : Binary64}

/-- What a sign stands for. -/
def sign (negative : Bool) : ℚ := if negative then -1 else 1

theorem cast_signed (negative : Bool) (n : Nat) : (signed negative n : ℚ) = sign negative * n := by
  cases negative <;> simp [signed, sign]

theorem sign_bne (a b : Bool) : sign (a != b) = sign a * sign b := by
  cases a <;> cases b <;> simp [sign]

theorem abs_sign_mul (negative : Bool) (q : ℚ) : |sign negative * q| = |q| := by
  cases negative <;> simp [sign]

theorem signed_natAbs (i : Int) : signed (decide (i < 0)) i.natAbs = i := by
  by_cases below : i < 0
  · rw [decide_eq_true below, signed, if_pos rfl]
    omega
  · rw [decide_eq_false below, signed, if_neg Bool.false_ne_true]
    omega

/-- A scaled whole number within the range becomes the nearest number there is. -/
theorem scaled_isClosest (negative : Bool) (m : Nat) (e : Int)
    (small : |(m * 2 ^ e : ℚ)| < integerBound) :
    IsClosest (sign negative * (m * 2 ^ e))
      (ofRatio negative (scale 2 m 1 e).1 (scale 2 m 1 e).2) := by
  have within : ((scale 2 m 1 e).1 : ℚ) / (scale 2 m 1 e).2 < integerBound := by
    rw [scale_ratio]
    exact (le_abs_self _).trans_lt small
  have closest := ofRatio_isClosest negative _ (scale_den_pos m Nat.one_pos e) within
  rwa [cast_signed, mul_div_assoc, scale_ratio] at closest

theorem ofDyadic_isClosest {s e : Int} (small : |(s * 2 ^ e : ℚ)| < integerBound) :
    IsClosest (s * 2 ^ e) (ofDyadic s e) := by
  have parts : (s * 2 ^ e : ℚ) = sign (decide (s < 0)) * (s.natAbs * 2 ^ e) := by
    rw [← mul_assoc, ← cast_signed, signed_natAbs]
  rw [parts, abs_sign_mul] at small
  rw [parts]
  exact scaled_isClosest _ s.natAbs e small

theorem ofInt_isClosest_of_abs {i : Int} (small : |(i : ℚ)| < integerBound) :
    IsClosest i (ofInt i) := by
  have whole : (i * 2 ^ (0 : ℤ) : ℚ) = i := by rw [zpow_zero, mul_one]
  rw [← whole] at small
  have closest := ofDyadic_isClosest small
  rwa [whole] at closest

theorem add_isClosest (hx : x.isFinite) (hy : y.isFinite)
    (small : |x.value + y.value| < integerBound) : IsClosest (x.value + y.value) (x + y) := by
  change IsClosest _ (add x y)
  cases x <;> cases y <;> simp only [isFinite, Bool.false_eq_true] at hx hy
  rename_i n m e n' m' e'
  rw [← signed_shift n m (min_le_left e e'), ← signed_shift n' m' (min_le_right e e'), ← add_mul,
    ← Int.cast_add] at small ⊢
  unfold add
  dsimp only
  generalize signed n _ + signed n' _ = sum at small ⊢
  split
  · rename_i none
    rw [none, Int.cast_zero, zero_mul]
    exact isClosest_zero _
  · exact ofDyadic_isClosest small

theorem sub_isClosest (hx : x.isFinite) (hy : y.isFinite)
    (small : |x.value - y.value| < integerBound) : IsClosest (x.value - y.value) (x - y) := by
  have finite : (-y).isFinite := by
    cases y <;> exact hy
  rw [sub_eq_add_neg, ← value_neg] at small ⊢
  exact add_isClosest hx finite small

theorem mul_isClosest (hx : x.isFinite) (hy : y.isFinite)
    (small : |x.value * y.value| < integerBound) : IsClosest (x.value * y.value) (x * y) := by
  change IsClosest _ (mul x y)
  cases x <;> cases y <;> simp only [isFinite, Bool.false_eq_true] at hx hy
  rename_i n m e n' m' e'
  have parts : (finite n m e).value * (finite n' m' e').value =
      sign (n != n') * ((m * m' : Nat) * 2 ^ (e + e')) := by
    rw [value, value, cast_signed, cast_signed, sign_bne, zpow_add₀ two_ne_zero]
    push_cast
    ring
  rw [parts, abs_sign_mul] at small
  rw [parts]
  exact scaled_isClosest _ (m * m') (e + e') small

end Arithmetic

section Error

variable {q : ℚ} {x : Binary64}

/-- Every multiple of a power of two is there, as far as the digits reach. -/
theorem exists_fits_multiple {j place : Int} (few : j.natAbs < 2 * leastNormal)
    (range : leastExponent ≤ place ∧ place ≤ greatestExponent) :
    ∃ y : Binary64, y.Fits ∧ y.value = j * 2 ^ place :=
  ⟨finite (decide (j < 0)) j.natAbs place, ⟨few, range⟩, by rw [value, signed_natAbs]⟩

/-- **The error is at most half of any last place that the ratio can be written with.** -/
theorem IsClosest.error_le (closest : IsClosest q x) {place : Int}
    (range : leastExponent ≤ place ∧ place ≤ greatestExponent)
    (small : |q| ≤ (2 ^ 53 - 1) * 2 ^ place) : |q - x.value| ≤ 2 ^ place / 2 := by
  have positive : (0 : ℚ) < 2 ^ place := by positivity
  obtain ⟨j, half⟩ : ∃ j : ℤ, |q / 2 ^ place - j| ≤ 1 / 2 := ⟨_, abs_sub_round _⟩
  have most : |q / 2 ^ place| ≤ 2 ^ 53 - 1 := by
    rw [abs_div, abs_of_pos positive, div_le_iff₀ positive]
    exact small
  have few : j.natAbs < 2 * leastNormal := by
    have size : |(j : ℚ)| < 2 ^ 53 := by
      have apart := abs_sub_abs_le_abs_sub (j : ℚ) (q / 2 ^ place)
      rw [abs_sub_comm] at apart
      linarith
    have whole : |j| < 2 ^ 53 := by exact_mod_cast size
    rw [Int.abs_eq_natAbs] at whole
    simp only [leastNormal]
    omega
  obtain ⟨y, fits, same⟩ := exists_fits_multiple few range
  calc |q - x.value| ≤ |q - j * 2 ^ place| := same ▸ closest.near y fits
    _ = |q / 2 ^ place - j| * 2 ^ place := by
        rw [← abs_of_pos positive, ← abs_mul, abs_of_pos positive, sub_mul,
          div_mul_cancel₀ _ positive.ne']
    _ ≤ 1 / 2 * 2 ^ place := mul_le_mul_of_nonneg_right half positive.le
    _ = 2 ^ place / 2 := by ring

theorem ofInt_of_few {i : Int} (few : i.natAbs < 2 * leastNormal) :
    (ofInt i).Fits ∧ (ofInt i).value = i := by
  have range : leastExponent ≤ 0 ∧ 0 ≤ greatestExponent := by decide
  have small : |(i : ℚ)| ≤ wholeBound := by
    have size : |i| ≤ wholeBound := by
      rw [Int.abs_eq_natAbs]
      simp only [leastNormal, wholeBound] at *
      omega
    exact_mod_cast size
  have closest := ofInt_isClosest_of_abs (lt_integerBound small)
  obtain ⟨y, fits, same⟩ := exists_fits_multiple few range
  rw [zpow_zero, mul_one] at same
  exact ⟨closest.fits, closest.exact fits same⟩

end Error

section Parts

variable {x : Binary64}

/-- The integer part of a number, and the part behind the point, which is a number too. -/
theorem Fits.trunc_split (fits : x.Fits) : ∃ (whole : Int) (part : Binary64),
    x.trunc = .ok whole ∧ part.Fits ∧ part.value = x.value - whole ∧ |part.value| < 1 := by
  cases x with
  | nan => exact fits.elim
  | infinite negative => exact fits.elim
  | finite negative m e =>
    by_cases integral : 0 ≤ e
    · obtain ⟨k, rfl⟩ := Int.eq_ofNat_of_zero_le integral
      refine ⟨signed negative (m * 2 ^ k), zero, ?_, by decide, ?_, by simp⟩
      · simp [trunc, scale]
      · rw [value_zero, value, cast_signed, cast_signed, zpow_natCast]
        push_cast
        ring
    · obtain ⟨k, hk⟩ := Int.eq_ofNat_of_zero_le (show 0 ≤ -e by omega)
      obtain rfl : e = -k := by omega
      have power : (0 : ℚ) < 2 ^ k := by positivity
      have left : m % 2 ^ k < 2 ^ k := Nat.mod_lt _ (Nat.two_pow_pos k)
      have split : (m : ℚ) * (2 ^ k)⁻¹ - (m / 2 ^ k : Nat) = (m % 2 ^ k : Nat) * (2 ^ k)⁻¹ := by
        have parts := div_eq_div_add_mod m (Nat.two_pow_pos k)
        rw [Nat.cast_pow, Nat.cast_ofNat, div_eq_mul_inv, div_eq_mul_inv] at parts
        rw [parts, add_sub_cancel_left]
      refine ⟨signed negative (m / 2 ^ k), finite negative (m % 2 ^ k) (-k), ?_, ?_, ?_, ?_⟩
      · rw [trunc, scale_down m rfl]
      · exact ⟨(Nat.mod_le m _).trans_lt fits.1, fits.2⟩
      · rw [value, value, cast_signed, cast_signed, cast_signed, zpow_neg, zpow_natCast]
        rw [mul_assoc, mul_assoc, ← mul_sub, split]
      · rw [value, cast_signed, mul_assoc, abs_sign_mul, zpow_neg, zpow_natCast,
          abs_of_nonneg (by positivity), ← div_eq_mul_inv, div_lt_one power]
        exact_mod_cast left

/-- Cutting off the integer part loses nothing, unless that part has no place for its own ones. -/
theorem Fits.sub_trunc (fits : x.Fits) (small : |x.value| ≤ wholeBound - 1) : ∃ whole : Int,
    x.trunc = .ok whole ∧ |x.value - whole| < 1 ∧
      (x - ofInt whole).Fits ∧ (x - ofInt whole).value = x.value - whole := by
  obtain ⟨whole, part, cut, fits', split, below⟩ := fits.trunc_split
  rw [split] at below
  have few : whole.natAbs < 2 * leastNormal := by
    have size : |(whole : ℚ)| < wholeBound := by
      have apart := abs_sub_abs_le_abs_sub (whole : ℚ) x.value
      rw [abs_sub_comm] at apart
      linarith
    have size' : |whole| < wholeBound := by exact_mod_cast size
    rw [Int.abs_eq_natAbs] at size'
    simp only [leastNormal, wholeBound] at size' ⊢
    omega
  obtain ⟨fits'', same⟩ := ofInt_of_few few
  have closest := sub_isClosest fits.isFinite fits''.isFinite (by
    rw [same]
    exact lt_integerBound (below.le.trans (by norm_num [wholeBound])))
  rw [same] at closest
  exact ⟨whole, cut, below, closest.fits, closest.exact fits' split⟩

/-- A number that is nearer than half a step to a whole number is rounded to it. -/
theorem round_of_near {i : Int} (fits : x.Fits) (near : |x.value - i| < 1 / 2) :
    x.round = .ok i := by
  obtain ⟨n, rounded⟩ : ∃ n, x.round = .ok n := by
    cases x with
    | nan => exact fits.elim
    | infinite negative => exact fits.elim
    | finite negative m e => exact ⟨_, rfl⟩
  have half := (round_isNearest rounded).near
  have apart : |((n - i : ℤ) : ℚ)| < 1 := by
    have across := abs_sub_le (i : ℚ) x.value n
    rw [abs_sub_comm (i : ℚ), abs_sub_comm (i : ℚ)] at across
    push_cast
    linarith
  have same : |n - i| < 1 := by exact_mod_cast apart
  rw [rounded, sub_eq_zero.mp (Int.abs_lt_one_iff.mp same)]

end Parts

end GnssMonitor.Binary64
