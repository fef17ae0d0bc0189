import Mathlib

/-!
# Truncated weighted means

The mean of two values, each with its weight, as integer division computes it.
Rounding towards zero cannot leave an interval whose ends are integers, so a
mean that is updated again and again stays between the smallest and the largest
of the values that entered it.
-/

namespace Stallorder.WeightedMean

/-- The mean of `value` and `other`, rounded towards zero. -/
def weightedMean (weight value otherWeight other : ℤ) : ℤ :=
  (weight * value + otherWeight * other).tdiv (weight + otherWeight)

theorem le_tdiv_of_mul_le {low total weight : ℤ} (hweight : 0 < weight)
    (hle : low * weight ≤ total) : low ≤ total.tdiv weight := by
  rcases le_or_gt 0 total with hnonneg | hneg
  · rw [Int.tdiv_eq_ediv_of_nonneg hnonneg]
    exact (Int.le_ediv_iff_mul_le hweight).mpr hle
  · have hlow : low < 0 := by
      by_contra hnonneg
      have hproduct := mul_nonneg (not_lt.mp hnonneg) hweight.le
      omega
    have hback : -total ≤ -low * weight := by
      rw [neg_mul]
      exact neg_le_neg hle
    have hdiv : (-total).tdiv weight ≤ -low := by
      rw [Int.tdiv_eq_ediv_of_nonneg (by omega)]
      exact Int.ediv_le_of_le_mul hweight hback
    rw [Int.neg_tdiv] at hdiv
    omega

theorem tdiv_le_of_le_mul {high total weight : ℤ} (hweight : 0 < weight)
    (hle : total ≤ high * weight) : total.tdiv weight ≤ high := by
  have hback : -high * weight ≤ -total := by
    rw [neg_mul]
    exact neg_le_neg hle
  have hdiv := le_tdiv_of_mul_le hweight hback
  rw [Int.neg_tdiv] at hdiv
  omega

section Bounds

variable {weight value otherWeight other bound : ℤ}

theorem le_weightedMean (hweight : 0 ≤ weight) (hother : 0 < otherWeight)
    (hvalue : bound ≤ value) (hbound : bound ≤ other) :
    bound ≤ weightedMean weight value otherWeight other := by
  apply le_tdiv_of_mul_le (by omega)
  calc bound * (weight + otherWeight) = weight * bound + otherWeight * bound := by ring
    _ ≤ weight * value + otherWeight * other :=
        add_le_add (mul_le_mul_of_nonneg_left hvalue hweight)
          (mul_le_mul_of_nonneg_left hbound hother.le)

theorem weightedMean_le (hweight : 0 ≤ weight) (hother : 0 < otherWeight)
    (hvalue : value ≤ bound) (hbound : other ≤ bound) :
    weightedMean weight value otherWeight other ≤ bound := by
  apply tdiv_le_of_le_mul (by omega)
  calc weight * value + otherWeight * other ≤ weight * bound + otherWeight * bound :=
        add_le_add (mul_le_mul_of_nonneg_left hvalue hweight)
          (mul_le_mul_of_nonneg_left hbound hother.le)
    _ = bound * (weight + otherWeight) := by ring

/-- The mean with something that has no weight. -/
theorem weightedMean_zero_left (hother : 0 < otherWeight) :
    weightedMean 0 value otherWeight other = other := by
  rw [weightedMean, zero_mul, zero_add, zero_add, Int.mul_tdiv_cancel_left _ hother.ne']

end Bounds

end Stallorder.WeightedMean
