import GnssMonitor.Calendar
import GnssMonitor.Proofs.Binary64.Rounding

/-! Instants as numbers of seconds and back. So near to 1970 the numbers are closer to each other
than half a microsecond, so that whole microseconds get through both roundings. -/

namespace GnssMonitor

namespace Instant

open Binary64

/-- Within so many seconds of 1970 the places of numbers are finer than microseconds. -/
def nearSeconds : Nat := 0xffffffff

variable {i : Instant}

theorem toSeconds_isClosest (near : i.micros.natAbs ≤ nearSeconds * 1000000) :
    |(i.micros / 1000000 : ℚ)| ≤ nearSeconds ∧ IsClosest (i.micros / 1000000) i.toSeconds := by
  have size : (i.micros.natAbs / (1000000 : Nat) : ℚ) ≤ nearSeconds := by
    rw [div_le_iff₀ (by norm_num)]
    exact_mod_cast near
  have small : (nearSeconds : ℚ) ≤ wholeBound := by norm_num [nearSeconds, wholeBound]
  have closest := ofRatio_isClosest (decide (i.micros < 0)) i.micros.natAbs (by decide)
    (lt_integerBound (size.trans small))
  rw [signed_natAbs] at closest
  refine ⟨?_, by exact_mod_cast closest⟩
  rw [abs_div, ← Int.cast_abs, ← Nat.cast_natAbs, abs_of_pos (by norm_num : (0 : ℚ) < 1000000)]
  exact_mod_cast size

/-- A part of a second in microseconds, with an error of far less than half of one. -/
theorem mul_million {part : Binary64} (fits : part.Fits) (below : |part.value| ≤ 1) :
    (part * ofInt 1000000).Fits ∧
      |part.value * 1000000 - (part * ofInt 1000000).value| ≤ 2 ^ (-33 : ℤ) / 2 := by
  obtain ⟨fits', million⟩ := ofInt_of_few (i := 1000000) (by decide)
  have scaled : |part.value * (1000000 : ℤ)| ≤ 1000000 := by
    rw [abs_mul]
    norm_num
    linarith
  have product := mul_isClosest fits.isFinite fits'.isFinite (by
    rw [million]
    exact lt_integerBound (scaled.trans (by norm_num [wholeBound])))
  rw [million] at product
  have off := product.error_le (by decide : leastExponent ≤ -33 ∧ -33 ≤ greatestExponent)
    (scaled.trans (by norm_num))
  exact ⟨product.fits, by exact_mod_cast off⟩

/-- **Whole microseconds survive as seconds.** -/
theorem ofSeconds_toSeconds (near : i.micros.natAbs ≤ nearSeconds * 1000000) :
    ofSeconds i.toSeconds = .ok i := by
  obtain ⟨size, closest⟩ := toSeconds_isClosest near
  generalize i.toSeconds = x at closest ⊢
  have off : |(i.micros / 1000000 : ℚ) - x.value| ≤ 2 ^ (-21 : ℤ) / 2 :=
    closest.error_le (by decide) (size.trans (by norm_num [nearSeconds]))
  have small : |x.value| ≤ wholeBound - 1 := by
    have apart := abs_sub_abs_le_abs_sub x.value (i.micros / 1000000)
    rw [abs_sub_comm] at apart
    norm_num [nearSeconds, wholeBound] at size off ⊢
    linarith
  obtain ⟨whole, cut, below, fits, same⟩ := closest.fits.sub_trunc small
  rw [← same] at below
  obtain ⟨fits', off'⟩ := mul_million fits below.le
  rw [same] at off'
  have rounded : ((x - ofInt whole) * ofInt 1000000).round =
      .ok (i.micros - whole * 1000000) := by
    apply round_of_near fits'
    -- both errors together are less than half a microsecond
    rw [abs_le] at off off'
    rw [abs_lt]
    norm_num at off off' ⊢
    constructor <;> linarith
  unfold ofSeconds
  rw [cut]
  change (((x - ofInt whole) * ofInt 1000000).round >>= _) = _
  rw [rounded]
  change Except.ok (⟨whole * 1000000 + (i.micros - whole * 1000000)⟩ : Instant) = _
  rw [add_sub_cancel]

end Instant
end GnssMonitor
