import GnssMonitor.Proofs.Binary64.Rounding

/-! Whole numbers as numbers of 64 bits: the nearest one there is, so that what is greater is not
made less. Up to `2 ^ 53` each whole number is there itself. -/

namespace GnssMonitor.Binary64

section Integers

variable {i j : Int}

/-- **A whole number within the range becomes the nearest number there is.** -/
theorem ofInt_isClosest (nonneg : 0 ≤ i) (small : i < integerBound) : IsClosest i (ofInt i) :=
  ofInt_isClosest_of_abs (by
    rw [abs_of_nonneg (by exact_mod_cast nonneg)]
    exact_mod_cast small)

theorem exists_fits (nonneg : 0 ≤ i) (small : i ≤ wholeBound) :
    ∃ y : Binary64, y.Fits ∧ y.value = i := by
  obtain ⟨n, rfl⟩ := Int.eq_ofNat_of_zero_le nonneg
  by_cases last : (n : Int) = wholeBound
  · refine ⟨finite false leastNormal 1, by decide, ?_⟩
    rw [last]
    norm_num [value, signed, leastNormal, wholeBound]
  · have short : n < 2 * leastNormal := by
      simp only [wholeBound, leastNormal] at *
      omega
    have range : leastExponent ≤ 0 ∧ 0 ≤ greatestExponent := by decide
    exact ⟨finite false n 0, ⟨short, range⟩, by simp [value, signed]⟩

theorem ofInt_exact (nonneg : 0 ≤ i) (small : i ≤ wholeBound) : (ofInt i).value = i := by
  obtain ⟨y, fits, same⟩ := exists_fits nonneg small
  exact (ofInt_isClosest nonneg (small.trans_lt wholeBound_lt)).exact fits same

/-- A number of this size has nothing behind the point. -/
theorem Fits.whole {x : Binary64} (fits : x.Fits) (large : wholeBound ≤ x.value) :
    ∃ k : ℤ, x.value = k := by
  cases x with
  | nan => exact fits.elim
  | infinite negative => exact fits.elim
  | finite negative m e =>
    by_cases integral : 0 ≤ e
    · refine ⟨signed negative m * 2 ^ e.toNat, ?_⟩
      push_cast
      rw [value, ← zpow_natCast, Int.toNat_of_nonneg integral]
    · have short : (signed negative m : ℚ) < wholeBound := by
        exact_mod_cast signed_lt negative fits.1
      have part : (2 : ℚ) ^ e ≤ 1 := zpow_le_one_of_nonpos₀ one_le_two (by omega)
      have beneath : (finite negative m e).value < wholeBound :=
        calc (finite negative m e).value < wholeBound * 2 ^ e :=
              mul_lt_mul_of_pos_right short (by positivity)
          _ ≤ wholeBound * 1 := mul_le_mul_of_nonneg_left part (by norm_num [wholeBound])
          _ = wholeBound := mul_one _
      exact absurd large (not_le.mpr beneath)

/-- What comes after the whole part of a number is still within the range. -/
theorem Fits.next_lt {x : Binary64} (fits : x.Fits) : ⌊x.value⌋ + 1 < integerBound := by
  obtain ⟨k, some, greatest, bound⟩ := exists_integerBound
  have most : x.value ≤ ((2 ^ 53 - 1) * 2 ^ (k + 1) : Nat) := by
    cases x with
    | nan => exact fits.elim
    | infinite negative => exact fits.elim
    | finite negative m e =>
      obtain ⟨short, -, range⟩ := fits
      have size : (signed negative m : ℚ) ≤ 2 ^ 53 - 1 := by
        exact_mod_cast Int.le_sub_one_of_lt (signed_lt negative short)
      have scale : (2 : ℚ) ^ e ≤ 2 ^ (k + 1) := by
        rw [← zpow_natCast]
        exact zpow_le_zpow_right₀ one_le_two (by omega)
      calc (finite negative m e).value ≤ (2 ^ 53 - 1) * 2 ^ e :=
            mul_le_mul_of_nonneg_right size (by positivity)
        _ ≤ (2 ^ 53 - 1) * 2 ^ (k + 1) := mul_le_mul_of_nonneg_left scale (by norm_num)
        _ = ((2 ^ 53 - 1) * 2 ^ (k + 1) : Nat) := by norm_num
  have floor : ⌊x.value⌋ ≤ ((2 ^ 53 - 1) * 2 ^ (k + 1) : Nat) := by
    exact_mod_cast (Int.floor_le x.value).trans most
  have step : 1 < 2 ^ k := Nat.one_lt_two_pow some
  rw [pow_succ] at floor
  rw [bound]
  omega

theorem wholeBound_le_ofInt (large : wholeBound ≤ i) (small : i < integerBound) :
    (wholeBound : ℚ) ≤ (ofInt i).value := by
  have bound : 0 ≤ wholeBound := by decide
  obtain ⟨y, fits, same⟩ := exists_fits bound le_rfl
  rw [← same]
  apply (ofInt_isClosest (bound.trans large) small).reaches fits
  rw [same]
  exact_mod_cast large

theorem ofInt_whole (nonneg : 0 ≤ i) (small : i < integerBound) :
    ∃ k : ℤ, (ofInt i).value = k := by
  by_cases exact : i ≤ wholeBound
  · exact ⟨i, ofInt_exact nonneg exact⟩
  · have large := wholeBound_le_ofInt (not_le.mp exact).le small
    exact (ofInt_isClosest nonneg small).fits.whole large

theorem ofInt_mono (nonneg : 0 ≤ i) (le : i ≤ j) (small : j < integerBound) :
    (ofInt i).value ≤ (ofInt j).value := by
  obtain rfl | less := le.eq_or_lt
  · exact le_rfl
  · exact (ofInt_isClosest nonneg (le.trans_lt small)).mono
      (ofInt_isClosest (nonneg.trans le) small) (by exact_mod_cast less)

/-- What is below the whole number is below its nearest one too, as long as whole numbers are there
one by one. -/
theorem lt_ofInt {x : Binary64} (nonneg : 0 ≤ i) (small : i < integerBound) (below : x.value < i)
    (short : x.value < wholeBound) : x.value < (ofInt i).value := by
  by_cases exact : i ≤ wholeBound
  · rw [ofInt_exact nonneg exact]
    exact below
  · exact short.trans_le (wholeBound_le_ofInt (not_le.mp exact).le small)

end Integers

end GnssMonitor.Binary64
