import Mathlib

/-!
# Quotients rounded to the nearest integer

An amount is shared out over a number of units at a rounded price.  The units
together cost the amount less what rounding cut off, or more by what it added.
-/

namespace Stallorder.Rounding

/-- The quotient rounded to the nearest integer, halves upwards. -/
def roundHalfUp (numerator denominator : ℤ) : ℤ :=
  (2 * numerator + denominator).fdiv (2 * denominator)

/-- The remainder, when it is less than half of the denominator. -/
def cutOff (numerator denominator : ℤ) : ℤ :=
  if 2 * (numerator % denominator) < denominator then numerator % denominator else 0

/-- What a remainder of a half or more lacks to the denominator. -/
def addedOn (numerator denominator : ℤ) : ℤ :=
  if 2 * (numerator % denominator) < denominator then 0
  else denominator - numerator % denominator

variable {numerator denominator : ℤ}

theorem roundHalfUp_eq (hpos : 0 < denominator) :
    roundHalfUp numerator denominator
      = if 2 * (numerator % denominator) < denominator then numerator / denominator
        else numerator / denominator + 1 := by
  have hsplit : denominator * (numerator / denominator) + numerator % denominator = numerator :=
    Int.mul_ediv_add_emod numerator denominator
  have hnonneg : 0 ≤ numerator % denominator := Int.emod_nonneg numerator hpos.ne'
  have hlt : numerator % denominator < denominator := Int.emod_lt_of_pos numerator hpos
  have hdouble : 0 < 2 * denominator := by omega
  -- The doubled numerator is a multiple of the doubled denominator and a remainder below it.
  have hquotient (quotient remainder : ℤ) (hbelow : 0 ≤ remainder ∧ remainder < 2 * denominator)
      (heq : 2 * numerator + denominator = remainder + quotient * (2 * denominator)) :
      roundHalfUp numerator denominator = quotient := by
    rw [roundHalfUp, Int.fdiv_eq_ediv_of_nonneg _ hdouble.le, heq,
      Int.add_mul_ediv_right _ _ hdouble.ne', Int.ediv_eq_zero_of_lt hbelow.1 hbelow.2, zero_add]
  split
  · apply hquotient _ (2 * (numerator % denominator) + denominator)
    · omega
    · linear_combination -2 * hsplit
  · apply hquotient _ (2 * (numerator % denominator) - denominator)
    · omega
    · linear_combination -2 * hsplit

theorem roundHalfUp_mul_add_cutOff (numerator : ℤ) (hpos : 0 < denominator) :
    roundHalfUp numerator denominator * denominator + cutOff numerator denominator
      = numerator + addedOn numerator denominator := by
  have hsplit : denominator * (numerator / denominator) + numerator % denominator = numerator :=
    Int.mul_ediv_add_emod numerator denominator
  rw [roundHalfUp_eq hpos, cutOff, addedOn]
  split
  · linear_combination hsplit
  · linear_combination hsplit

/-! ## Sums of rounded parts -/

section Sums

variable {Part : Type*} {amount units : Part → ℤ} {parts : List Part}

theorem sum_roundHalfUp_mul_add_cutOff (amount : Part → ℤ)
    (hpos : ∀ part ∈ parts, 0 < units part) :
    (parts.map fun part => roundHalfUp (amount part) (units part) * units part).sum
        + (parts.map fun part => cutOff (amount part) (units part)).sum
      = (parts.map amount).sum
        + (parts.map fun part => addedOn (amount part) (units part)).sum := by
  induction parts with
  | nil => rfl
  | cons part parts ih =>
      rw [List.forall_mem_cons] at hpos
      have hpart := roundHalfUp_mul_add_cutOff (amount part) hpos.1
      have hrest := ih hpos.2
      simp only [List.map_cons, List.sum_cons]
      linear_combination hpart + hrest

/-- The rounded parts make up the whole exactly when as much is cut off as is added. -/
theorem sum_roundHalfUp_mul_eq_iff (hpos : ∀ part ∈ parts, 0 < units part) :
    (parts.map fun part => roundHalfUp (amount part) (units part) * units part).sum
        = (parts.map amount).sum
      ↔ (parts.map fun part => cutOff (amount part) (units part)).sum
        = (parts.map fun part => addedOn (amount part) (units part)).sum := by
  have hsum := sum_roundHalfUp_mul_add_cutOff amount hpos
  constructor
  · intro hwhole
    rw [hwhole] at hsum
    exact add_left_cancel hsum
  · intro hsame
    rw [hsame] at hsum
    exact add_right_cancel hsum

end Sums

end Stallorder.Rounding
