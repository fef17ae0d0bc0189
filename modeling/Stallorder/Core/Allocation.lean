import Mathlib

/-!
# Shares in proportion

A total is split in proportion to a list of weights: every share is rounded
down, and the units that rounding left over go to the first shares, one each.
The quotients that are rounded need not be exact.  The shares add up to the total
as long as the errors of the quotients are less than one unit together, and a
share stays within its weight unless a unit is handed to a weight of zero.
-/

namespace Stallorder.Allocation

/-- Hand the units that are left over to the first shares. -/
def addRemainder : ℤ → List ℤ → List ℤ
  | _, [] => []
  | remainder, share :: shares =>
      if 0 < remainder then (share + 1) :: addRemainder (remainder - 1) shares
      else share :: shares

variable (share : ℤ → ℤ) (total : ℤ) (weights : List ℤ)

/-- The units that the shares leave over. -/
def leftover : ℤ := total - (weights.map share).sum

/-- A total in proportion to the weights. -/
def allocate : List ℤ :=
  if weights.sum = 0 then weights.map fun _ => 0
  else addRemainder (leftover share total weights) (weights.map share)

/-- What rounding takes from the shares, in fractions of the sum of the weights. -/
def roundingLoss : ℤ :=
  (weights.map fun weight => total * weight - weights.sum * share weight).sum

/-- A share is the quotient of the proportion rounded down, where the quotient may be off by a
part of itself.  Over the whole total that is less than a unit. -/
structure RoundsDown (error : ℚ) : Prop where
  nonneg : ∀ weight ∈ weights, 0 ≤ share weight
  upper : ∀ weight ∈ weights, (share weight : ℚ) ≤ total * weight / weights.sum * (1 + error)
  lower : ∀ weight ∈ weights,
    total * weight / weights.sum * (1 - error) < (share weight : ℚ) + 1
  small : total * error < 1

variable {share total weights} {shares : List ℤ}

/-! ## Handing out units -/

@[simp]
theorem length_addRemainder (remainder : ℤ) (shares : List ℤ) :
    (addRemainder remainder shares).length = shares.length := by
  induction shares generalizing remainder with
  | nil => rfl
  | cons share shares ih =>
      unfold addRemainder
      by_cases hpos : 0 < remainder
      · rw [if_pos hpos, List.length_cons, List.length_cons, ih]
      · rw [if_neg hpos]

theorem sum_addRemainder {remainder : ℤ} (hnonneg : 0 ≤ remainder)
    (hlength : remainder ≤ shares.length) :
    (addRemainder remainder shares).sum = shares.sum + remainder := by
  induction shares generalizing remainder with
  | nil =>
      have hzero : remainder = 0 := le_antisymm (by simpa using hlength) hnonneg
      simp [addRemainder, hzero]
  | cons share shares ih =>
      unfold addRemainder
      by_cases hpos : 0 < remainder
      · rw [if_pos hpos, List.sum_cons, List.sum_cons,
          ih (by omega) (by push_cast [List.length_cons] at hlength; omega)]
        ring
      · have hzero : remainder = 0 := le_antisymm (not_lt.mp hpos) hnonneg
        rw [if_neg hpos, hzero, add_zero]

/-- The share at an index gets a unit when the units last that far. -/
theorem getElem_addRemainder (remainder : ℤ) {index : ℕ} (hindex : index < shares.length)
    (hshare : index < (addRemainder remainder shares).length) :
    (addRemainder remainder shares)[index]
      = shares[index] + if (index : ℤ) < remainder then 1 else 0 := by
  induction shares generalizing remainder index with
  | nil => exact absurd hindex (Nat.not_lt_zero index)
  | cons share shares ih =>
      by_cases hpos : 0 < remainder
      · simp only [addRemainder, if_pos hpos]
        cases index with
        | zero => simp [hpos]
        | succ index =>
            rw [List.getElem_cons_succ, List.getElem_cons_succ,
              ih (remainder - 1) (by simpa using hindex)]
            have hshift : ((index : ℤ) < remainder - 1) ↔ ((index + 1 : ℕ) : ℤ) < remainder := by
              push_cast
              omega
            simp only [hshift]
      · simp only [addRemainder, if_neg hpos]
        rw [if_neg (by omega), add_zero]

/-! ## The shares -/

@[simp]
theorem length_allocate (share : ℤ → ℤ) (total : ℤ) (weights : List ℤ) :
    (allocate share total weights).length = weights.length := by
  unfold allocate
  by_cases hsum : weights.sum = 0
  · rw [if_pos hsum, List.length_map]
  · rw [if_neg hsum, length_addRemainder, List.length_map]

/-- The units left over, in fractions of the sum of the weights, are the rounding loss. -/
theorem leftover_mul_sum (share : ℤ → ℤ) (total : ℤ) (weights : List ℤ) :
    leftover share total weights * weights.sum = roundingLoss share total weights := by
  have hsplit : ∀ (divisor : ℤ) (parts : List ℤ),
      (parts.map fun weight => total * weight - divisor * share weight).sum
        = total * parts.sum - divisor * (parts.map share).sum := by
    intro divisor parts
    induction parts with
    | nil => simp
    | cons weight parts ih =>
        simp only [List.map_cons, List.sum_cons, ih]
        ring
  rw [roundingLoss, hsplit, leftover]
  ring

theorem getElem_allocate (hpos : 0 < weights.sum) {index : ℕ} (hindex : index < weights.length)
    (hshare : index < (allocate share total weights).length) :
    (allocate share total weights)[index]
      = share weights[index] + if (index : ℤ) < leftover share total weights then 1 else 0 := by
  simp only [allocate, if_neg hpos.ne']
  have hbound : index < (weights.map share).length := by rwa [List.length_map]
  rw [getElem_addRemainder _ hbound, List.getElem_map]

/-- Bounds of the parts in proportion to the weights are bounds of their sums. -/
theorem sum_map_le_mul_sum {factor : ℚ} {value : ℤ → ℚ} {parts : List ℤ}
    (hle : ∀ weight ∈ parts, value weight ≤ weight * factor) :
    (parts.map value).sum ≤ parts.sum * factor := by
  induction parts with
  | nil => simp
  | cons weight parts ih =>
      have hfirst := hle weight List.mem_cons_self
      have hrest := ih fun other hother => hle other (List.mem_cons_of_mem _ hother)
      rw [List.map_cons, List.sum_cons, List.sum_cons, Int.cast_add, add_mul]
      exact add_le_add hfirst hrest

theorem cast_sum_shares (share : ℤ → ℤ) (weights : List ℤ) :
    (((weights.map share).sum : ℤ) : ℚ) = (weights.map fun weight => (share weight : ℚ)).sum := by
  rw [Int.cast_list_sum, List.map_map]
  rfl

namespace RoundsDown

variable {error : ℚ} (hrounds : RoundsDown share total weights error) (hpos : 0 < weights.sum)
include hrounds

theorem share_zero (hmem : 0 ∈ weights) : share 0 = 0 := by
  have hupper := hrounds.upper 0 hmem
  rw [Int.cast_zero, mul_zero, zero_div, zero_mul] at hupper
  exact le_antisymm (by exact_mod_cast hupper) (hrounds.nonneg 0 hmem)

include hpos

theorem sum_shares_le : (((weights.map share).sum : ℤ) : ℚ) ≤ total * (1 + error) := by
  have hsum : (0 : ℚ) < weights.sum := Int.cast_pos.mpr hpos
  have hbound : (weights.map fun weight => (share weight : ℚ)).sum
      ≤ weights.sum * (total / weights.sum * (1 + error)) := by
    apply sum_map_le_mul_sum
    intro weight hweight
    calc (share weight : ℚ) ≤ total * weight / weights.sum * (1 + error) :=
          hrounds.upper weight hweight
      _ = weight * (total / weights.sum * (1 + error)) := by ring
  calc (((weights.map share).sum : ℤ) : ℚ)
      ≤ weights.sum * (total / weights.sum * (1 + error)) := by
        rw [cast_sum_shares]
        exact hbound
    _ = total * (1 + error) := by
        rw [← mul_assoc, mul_div_cancel₀ _ hsum.ne']

theorem le_sum_shares :
    total * (1 - error) ≤ (((weights.map share).sum : ℤ) : ℚ) + weights.length := by
  have hsum : (0 : ℚ) < weights.sum := Int.cast_pos.mpr hpos
  have hbound : (weights.map fun weight => -(share weight : ℚ) - 1).sum
      ≤ weights.sum * (-(total / weights.sum * (1 - error))) := by
    apply sum_map_le_mul_sum
    intro weight hweight
    have hlower := hrounds.lower weight hweight
    have hfactor : (weight : ℚ) * -(total / weights.sum * (1 - error))
        = -(total * weight / weights.sum * (1 - error)) := by ring
    rw [hfactor]
    linarith
  have hshares : (weights.map fun weight => -(share weight : ℚ) - 1).sum
      = -(((weights.map share).sum : ℤ) : ℚ) - weights.length := by
    rw [cast_sum_shares]
    clear hbound
    generalize weights = parts
    induction parts with
    | nil => simp
    | cons weight parts ih =>
        rw [List.map_cons, List.sum_cons, ih, List.map_cons, List.sum_cons, List.length_cons]
        push_cast
        ring
  have hfactor : (weights.sum : ℚ) * -(total / weights.sum * (1 - error))
      = -(total * (1 - error)) := by
    rw [mul_neg, ← mul_assoc, mul_div_cancel₀ _ hsum.ne']
  rw [hshares, hfactor] at hbound
  linarith

theorem leftover_bounds :
    0 ≤ leftover share total weights ∧ leftover share total weights ≤ weights.length := by
  have hupper := hrounds.sum_shares_le hpos
  have hlower := hrounds.le_sum_shares hpos
  have hsmall := hrounds.small
  have hcast : ((leftover share total weights : ℤ) : ℚ)
      = total - (((weights.map share).sum : ℤ) : ℚ) := Int.cast_sub _ _
  constructor
  · have hmore : (-1 : ℚ) < leftover share total weights := by
      rw [hcast]
      linarith
    have hint : (-1 : ℤ) < leftover share total weights := by exact_mod_cast hmore
    omega
  · have hless : (leftover share total weights : ℚ) < weights.length + 1 := by
      rw [hcast]
      linarith
    exact Int.lt_add_one_iff.mp (by exact_mod_cast hless)

/-- A share stays within a positive weight. -/
theorem share_lt_weight {weight : ℤ} (hmem : weight ∈ weights) (hweight : 0 < weight)
    (htotal : total < weights.sum) : share weight < weight := by
  have hsum : (0 : ℚ) < weights.sum := Int.cast_pos.mpr hpos
  have hpositive : (0 : ℚ) < weight := Int.cast_pos.mpr hweight
  have hnext : (total : ℚ) + 1 ≤ weights.sum := by exact_mod_cast htotal
  have hless : (total : ℚ) * (1 + error) < weights.sum := by
    linarith [hrounds.small]
  have hquotient : (share weight : ℚ) < weight := by
    calc (share weight : ℚ) ≤ total * weight / weights.sum * (1 + error) :=
          hrounds.upper weight hmem
      _ = weight * (total * (1 + error) / weights.sum) := by ring
      _ < weight * 1 :=
          mul_lt_mul_of_pos_left ((div_lt_one hsum).mpr hless) hpositive
      _ = weight := mul_one _
  exact_mod_cast hquotient

/-- The shares add up to the total. -/
theorem sum_allocate : (allocate share total weights).sum = total := by
  obtain ⟨hlower, hupper⟩ := hrounds.leftover_bounds hpos
  rw [allocate, if_neg hpos.ne', sum_addRemainder hlower (by rwa [List.length_map]), leftover]
  ring

theorem allocate_nonneg : ∀ part ∈ allocate share total weights, 0 ≤ part := by
  intro part hmem
  obtain ⟨index, hindex, rfl⟩ := List.mem_iff_getElem.mp hmem
  rw [length_allocate] at hindex
  rw [getElem_allocate hpos hindex]
  have hnonneg := hrounds.nonneg _ (List.getElem_mem hindex)
  split <;> omega

/-- Every share stays within its weight exactly when no weight of zero is reached by the
units left over. -/
theorem allocate_le_iff (hnonneg : ∀ weight ∈ weights, 0 ≤ weight)
    (htotal : total < weights.sum
      ∨ total = weights.sum ∧ ∀ weight ∈ weights, share weight = weight) :
    (∀ (index : ℕ) (hindex : index < weights.length),
        (allocate share total weights).get ⟨index, by simpa using hindex⟩ ≤ weights[index])
      ↔ ∀ (index : ℕ) (hindex : index < weights.length), weights[index] = 0 →
        roundingLoss share total weights ≤ index * weights.sum := by
  have hreached : ∀ index : ℕ, roundingLoss share total weights ≤ index * weights.sum
      ↔ leftover share total weights ≤ index := by
    intro index
    rw [← leftover_mul_sum]
    exact mul_le_mul_iff_left₀ hpos
  simp only [hreached]
  constructor
  · intro hwithin index hindex hzero
    have hshare := hwithin index hindex
    have hmem : 0 ∈ weights := hzero ▸ List.getElem_mem hindex
    rw [List.get_eq_getElem, getElem_allocate hpos hindex, hzero,
      hrounds.share_zero hmem, zero_add] at hshare
    by_contra hunit
    rw [if_pos (not_le.mp hunit)] at hshare
    omega
  · intro hunits index hindex
    have hmem : weights[index] ∈ weights := List.getElem_mem hindex
    rw [List.get_eq_getElem, getElem_allocate hpos hindex]
    rcases (hnonneg _ hmem).eq_or_lt with hzero | hpositive
    · rw [← hzero, hrounds.share_zero (hzero ▸ hmem),
        if_neg (not_lt.mpr (hunits index hindex hzero.symm)), add_zero]
    rcases htotal with hless | ⟨hall, hwhole⟩
    · have hshare := hrounds.share_lt_weight hpos hmem hpositive hless
      split <;> omega
    · -- shares that are the weights leave no units over
      have hsame : weights.map share = weights := by
        rw [List.map_congr_left hwhole, List.map_id']
      have hnone : leftover share total weights = 0 := by
        rw [leftover, hsame, hall, sub_self]
      rw [hwhole _ hmem, hnone, if_neg (by omega), add_zero]

end RoundsDown

end Stallorder.Allocation
