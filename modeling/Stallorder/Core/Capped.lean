import Mathlib

/-!
# Caps on the parts of a sum

A cap that is meant for a sum is put on each of its parts instead.  The capped
sum stays within the cap exactly when the sum does, or when at most one part
counts.  Where each key has a cap of its own, the parts come to what the capped
sums of the keys come to exactly when every key stays within its cap.
-/

namespace Stallorder.Capped

variable {Part : Type*} (amount : Part → ℕ) (cap : ℕ)

def cappedSum (parts : List Part) : ℕ := (parts.map fun part => min (amount part) cap).sum

def counted (parts : List Part) : List Part := parts.filter fun part => 0 < amount part

variable {amount cap} {parts : List Part}

theorem cappedSum_cons (part : Part) (parts : List Part) :
    cappedSum amount cap (part :: parts) = min (amount part) cap + cappedSum amount cap parts := by
  rw [cappedSum, List.map_cons, List.sum_cons, cappedSum]

theorem cappedSum_le_sum (parts : List Part) :
    cappedSum amount cap parts ≤ (parts.map amount).sum :=
  List.sum_le_sum fun part _ => min_le_left (amount part) cap

/-- Nothing was cut off from a sum that stays below the cap. -/
theorem sum_eq_cappedSum_of_lt (hlt : cappedSum amount cap parts < cap) :
    (parts.map amount).sum = cappedSum amount cap parts := by
  induction parts with
  | nil => rfl
  | cons part parts ih =>
      rw [cappedSum_cons] at hlt
      have hpart : min (amount part) cap = amount part := by omega
      rw [List.map_cons, List.sum_cons, cappedSum_cons, hpart, ih (by omega)]

theorem counted_eq_nil_of_cappedSum_eq_zero (hcap : 0 < cap)
    (hzero : cappedSum amount cap parts = 0) : counted amount parts = [] := by
  induction parts with
  | nil => rfl
  | cons part parts ih =>
      rw [cappedSum_cons] at hzero
      have hpart : amount part = 0 := by omega
      have hrest : counted amount parts = [] := ih (by omega)
      rw [counted, List.filter_cons_of_neg (by simp [hpart]), ← counted, hrest]

theorem cappedSum_eq_zero_of_counted_eq_nil (hnone : counted amount parts = []) :
    cappedSum amount cap parts = 0 := by
  refine List.sum_eq_zero fun value hvalue => ?_
  obtain ⟨part, hpart, rfl⟩ := List.mem_map.mp hvalue
  have hzero : ¬0 < amount part := by
    simpa using List.filter_eq_nil_iff.mp hnone part hpart
  omega

theorem cappedSum_le_of_length_counted_le_one (hone : (counted amount parts).length ≤ 1) :
    cappedSum amount cap parts ≤ cap := by
  induction parts with
  | nil => exact Nat.zero_le cap
  | cons part parts ih =>
      rw [cappedSum_cons]
      by_cases hpart : 0 < amount part
      · have hcons : counted amount (part :: parts) = part :: counted amount parts :=
          List.filter_cons_of_pos (by simpa using hpart)
        rw [hcons, List.length_cons] at hone
        have hnone : counted amount parts = [] := List.eq_nil_of_length_eq_zero (by omega)
        rw [cappedSum_eq_zero_of_counted_eq_nil hnone]
        exact min_le_right (amount part) cap
      · have hcons : counted amount (part :: parts) = counted amount parts :=
          List.filter_cons_of_neg (by simpa using hpart)
        rw [hcons] at hone
        have hrest := ih hone
        omega

theorem sum_le_or_length_counted_le_one (hcap : 0 < cap)
    (hle : cappedSum amount cap parts ≤ cap) :
    (parts.map amount).sum ≤ cap ∨ (counted amount parts).length ≤ 1 := by
  induction parts with
  | nil => exact .inl (Nat.zero_le cap)
  | cons part parts ih =>
      rw [cappedSum_cons] at hle
      by_cases hpart : 0 < amount part
      · by_cases hsmall : amount part < cap
        · -- What the other parts add is below the cap, so none of them is cut.
          have hrest := sum_eq_cappedSum_of_lt (by omega : cappedSum amount cap parts < cap)
          rw [List.map_cons, List.sum_cons, hrest]
          exact .inl (by omega)
        · have hzero : cappedSum amount cap parts = 0 := by omega
          have hnone := counted_eq_nil_of_cappedSum_eq_zero hcap hzero
          have hcons : counted amount (part :: parts) = part :: counted amount parts :=
            List.filter_cons_of_pos (by simpa using hpart)
          rw [hcons, hnone]
          exact .inr (le_refl 1)
      · have hcons : counted amount (part :: parts) = counted amount parts :=
          List.filter_cons_of_neg (by simpa using hpart)
        rw [hcons, List.map_cons, List.sum_cons]
        have hrest := ih (by omega)
        have hzero : amount part = 0 := by omega
        rwa [hzero, zero_add]

theorem cappedSum_le_iff (parts : List Part) :
    cappedSum amount cap parts ≤ cap
      ↔ cap = 0 ∨ (parts.map amount).sum ≤ cap ∨ (counted amount parts).length ≤ 1 := by
  constructor
  · intro hle
    rcases Nat.eq_zero_or_pos cap with hzero | hcap
    · exact .inl hzero
    · exact .inr (sum_le_or_length_counted_le_one hcap hle)
  · rintro (rfl | hsum | hone)
    · exact Nat.le_zero.mpr (List.sum_eq_zero (by simp))
    · exact (cappedSum_le_sum parts).trans hsum
    · exact cappedSum_le_of_length_counted_le_one hone

/-! ## One cap for each key -/

theorem min_sum_le_cappedSum (parts : List Part) :
    min (parts.map amount).sum cap ≤ cappedSum amount cap parts := by
  by_cases hlt : cappedSum amount cap parts < cap
  · rw [sum_eq_cappedSum_of_lt hlt]
    exact min_le_left _ _
  · exact (min_le_right _ _).trans (not_lt.mp hlt)

theorem min_sum_eq_cappedSum_iff (parts : List Part) :
    min (parts.map amount).sum cap = cappedSum amount cap parts
      ↔ cappedSum amount cap parts ≤ cap := by
  have hle : cappedSum amount cap parts ≤ (parts.map amount).sum := cappedSum_le_sum parts
  have hge : min (parts.map amount).sum cap ≤ cappedSum amount cap parts :=
    min_sum_le_cappedSum parts
  omega

/-- What the caps cut off from the parts. -/
def excessSum (amount : Part → ℕ) (cap : ℕ) (parts : List Part) : ℕ :=
  (parts.map fun part => amount part - cap).sum

theorem cappedSum_add_excessSum (parts : List Part) :
    cappedSum amount cap parts + excessSum amount cap parts = (parts.map amount).sum := by
  induction parts with
  | nil => rfl
  | cons part parts ih =>
      rw [cappedSum_cons, excessSum, List.map_cons, List.sum_cons, ← excessSum, List.map_cons,
        List.sum_cons, ← ih]
      omega

section Keys

variable {Key : Type*} [DecidableEq Key] {key : Part → Key} {keys : Finset Key}

theorem sum_filter_key (value : Part → ℕ) (hkeys : ∀ part ∈ parts, key part ∈ keys) :
    ∑ sought ∈ keys, ((parts.filter (key · = sought)).map value).sum
      = (parts.map value).sum := by
  induction parts with
  | nil => exact Finset.sum_const_zero
  | cons part parts ih =>
      have hrest : ∀ part ∈ parts, key part ∈ keys := fun part hpart =>
        hkeys part (List.mem_cons_of_mem _ hpart)
      have hcons : ∀ sought, (((part :: parts).filter (key · = sought)).map value).sum
          = (if key part = sought then value part else 0)
            + ((parts.filter (key · = sought)).map value).sum := by
        intro sought
        by_cases hsame : key part = sought
        · simp [hsame]
        · simp [hsame]
      rw [Finset.sum_congr rfl fun sought _ => hcons sought, Finset.sum_add_distrib,
        Finset.sum_ite_eq, if_pos (hkeys part List.mem_cons_self), ih hrest, List.map_cons,
        List.sum_cons]

theorem cappedSum_eq_sum_keys_iff (hkeys : ∀ part ∈ parts, key part ∈ keys) :
    cappedSum amount cap parts
        = ∑ sought ∈ keys, min ((parts.filter (key · = sought)).map amount).sum cap
      ↔ ∀ sought ∈ keys, cappedSum amount cap (parts.filter (key · = sought)) ≤ cap := by
  have hsplit : cappedSum amount cap parts
      = ∑ sought ∈ keys, cappedSum amount cap (parts.filter (key · = sought)) :=
    (sum_filter_key _ hkeys).symm
  rw [hsplit, eq_comm, Finset.sum_eq_sum_iff_of_le fun _ _ => min_sum_le_cappedSum _]
  exact forall₂_congr fun _ _ => min_sum_eq_cappedSum_iff _

/-- What is cut off is what the keys have beyond their caps, as soon as the capped sums
agree. -/
theorem excessSum_eq_sum_keys (hkeys : ∀ part ∈ parts, key part ∈ keys)
    (hcapped : cappedSum amount cap parts
      = ∑ sought ∈ keys, min ((parts.filter (key · = sought)).map amount).sum cap) :
    excessSum amount cap parts
      = ∑ sought ∈ keys, (((parts.filter (key · = sought)).map amount).sum - cap) := by
  have hboth : ∑ sought ∈ keys, min ((parts.filter (key · = sought)).map amount).sum cap
      + ∑ sought ∈ keys, (((parts.filter (key · = sought)).map amount).sum - cap)
      = (parts.map amount).sum := by
    rw [← sum_filter_key amount hkeys, ← Finset.sum_add_distrib]
    apply Finset.sum_congr rfl
    intro sought _
    omega
  have hparts : cappedSum amount cap parts + excessSum amount cap parts
      = (parts.map amount).sum := cappedSum_add_excessSum parts
  omega

end Keys

end Stallorder.Capped
